import CodeFolding.Line.Basic
import CodeFolding.Text.Basic
/-!
# Command lines

What a command line asks for. A command line that is not well formed asks for nothing: it has an
argument that is not known or given twice, or a value that is missing or of the wrong kind.
-/
namespace CodeFolding

/-- Settings that a command line overrides. -/
structure Overrides where
  tabSize : Option Nat := none
  skipIndent : Bool := false
  noGate : Bool := false
deriving DecidableEq, Repr

inductive Command where
  /-- Fold a file. -/
  | fold (file : String) (overrides : Overrides)
  /-- Find the blocks in a range of lines of a file. -/
  | lines (file : String) (range : LineRange) (overrides : Overrides)
  /-- Show the methods of a file. -/
  | outline (file : String)
  /-- Fold a project. -/
  | scan (root filter : Option String) (limit : Nat) (overrides : Overrides)
deriving DecidableEq, Repr

inductive Invocation where
  | run (json : Bool) (command : Command)
  | version
  | help
deriving DecidableEq, Repr

namespace Command

/-! ## Arguments -/

inductive ValueKind where
  /-- A number below the bound of machine words. -/
  | number
  /-- A path, which is not empty. -/
  | path
  | text
deriving DecidableEq, Repr

/-- The number that a text writes in decimal digits, with or without a plus. -/
def number? (s : String) : Option Nat :=
  let digits := match s.toList with
    | '+' :: rest => rest
    | t => t
  if digits.isEmpty || !digits.all Char.isDigit then none
  else
    let n := Text.ofDigits 10 digits
    if n < 0x10000000000000000 then some n else none

def ValueKind.accepts : ValueKind → String → Bool
  | number, s => (number? s).isSome
  | path, s => !s.isEmpty
  | text, _ => true

/-- The arguments that a command takes: options without and with values, by their long names, and
at most one file. -/
structure Shape where
  flags : List String
  options : List (String × ValueKind)
  takesFile : Bool

structure Arguments where
  flags : List String := []
  options : List (String × String) := []
  file : Option String := none

namespace Arguments

/-- Adds an option without a value, unless it is there. -/
def addFlag (shape : Shape) (a : Arguments) (name : String) : Option Arguments :=
  if shape.flags.contains name && !a.flags.contains name then
    some { a with flags := name :: a.flags }
  else none

/-- Adds an option with its value, unless it is there. -/
def addOption (shape : Shape) (a : Arguments) (name value : String) : Option Arguments := do
  let kind ← shape.options.lookup name
  if kind.accepts value && (a.options.lookup name).isNone then
    return { a with options := (name, value) :: a.options }
  else none

/-- Adds a file, unless there is one. -/
def addFile (shape : Shape) (a : Arguments) (file : String) : Option Arguments :=
  if shape.takesFile && a.file.isNone && ValueKind.path.accepts file then
    some { a with file := some file }
  else none

def has (a : Arguments) (name : String) : Bool := a.flags.contains name

def value? (a : Arguments) (name : String) : Option String := a.options.lookup name

def number? (a : Arguments) (name : String) : Option Nat := (a.value? name).bind Command.number?

def overrides (a : Arguments) : Overrides :=
  ⟨a.number? "tab-size", a.has "skip-indent", a.has "no-gate"⟩

end Arguments

inductive Form where
  /-- Two dashes: all that follows are files. -/
  | separator
  /-- A long name, perhaps with a value behind an equals sign. -/
  | long (name : String) (value : Option String)
  /-- A dash and the letter behind it. -/
  | short (letter : Char)
  | plain
deriving DecidableEq, Repr

/-- The form of an argument. A dash alone is a file. -/
def formOf (argument : String) : Form :=
  match argument.toList with
  | ['-', '-'] => .separator
  | '-' :: '-' :: rest =>
    let name := String.ofList (rest.takeWhile (· != '='))
    match rest.dropWhile (· != '=') with
    | _ :: value => .long name (some (String.ofList value))
    | [] => .long name none
  | '-' :: letter :: _ => .short letter
  | _ => .plain

/-- What arguments are read to: arguments, or a request for help in front of the first fault. -/
inductive Outcome (α : Type) where
  | done (a : α)
  | help

/-- Reads the arguments behind the name of a command. An option whose value is to follow waits for
it; only a plain argument is a value. -/
def readArguments (shape : Shape) :
    (waiting : Option String) → List String → Arguments → Option (Outcome Arguments)
  | none, [], a => some (.done a)
  | some _, [], _ => none
  | some name, value :: rest, a =>
    if formOf value = .plain then do
      readArguments shape none rest (← a.addOption shape name value)
    else none
  | none, argument :: rest, a =>
    match formOf argument with
    | .separator => (rest.foldlM (Arguments.addFile shape) a).map .done
    | .short letter => if letter = 'h' then some .help else none
    | .plain => do readArguments shape none rest (← a.addFile shape argument)
    | .long "help" none => some .help
    | .long name (some value) => do readArguments shape none rest (← a.addOption shape name value)
    | .long name none =>
      if (shape.options.lookup name).isSome then readArguments shape (some name) rest a
      else do readArguments shape none rest (← a.addFlag shape name)

/-! ## Commands -/

def overrideFlags : List String := ["skip-indent", "no-gate"]

def overrideOptions : List (String × ValueKind) := [("tab-size", .number)]

/-- Files that a scan lists unless it is told otherwise. -/
def defaultLimit : Nat := 50

/-- The arguments of a command and the command they make, by the command's name. -/
def shape? : String → Option (Shape × (Arguments → Option Command))
  | "fold" => some (⟨"json" :: overrideFlags, overrideOptions, true⟩, fun a => do
      return .fold (← a.file) a.overrides)
  | "lines" => some (⟨"json" :: overrideFlags,
      ("start", .number) :: ("end", .number) :: overrideOptions, true⟩, fun a => do
      return .lines (← a.file) ⟨← a.number? "start", ← a.number? "end"⟩ a.overrides)
  | "outline" => some (⟨["json"], [], true⟩, fun a => do return .outline (← a.file))
  | "scan" => some (⟨"json" :: overrideFlags,
      ("root", .path) :: ("filter", .text) :: ("limit", .number) :: overrideOptions, false⟩,
      fun a => some (.scan (a.value? "root") (a.value? "filter")
        ((a.number? "limit").getD defaultLimit) a.overrides))
  | _ => none

/-- Reads a command line. The option for structured output may stand in front of the command or
behind it. -/
def parse : List String → (json : Bool) → Option Invocation
  | [], _ => none
  | argument :: rest, json =>
    match formOf argument with
    | .separator => none
    | .short letter =>
      if letter = 'V' then some .version else if letter = 'h' then some .help else none
    | .long "version" none => some .version
    | .long "help" none => some .help
    | .long "json" none => if json then none else parse rest true
    | .long .. => none
    | .plain =>
      if argument = "help" then
        if rest.all fun s => (shape? s).isSome then some .help else none
      else do
        let (shape, build) ← shape? argument
        match ← readArguments shape none rest {} with
        | .help => return .help
        | .done a => return .run (json || a.has "json") (← build a)

end Command

end CodeFolding
