import CodeFolding.Regex.Basic
import CodeFolding.Text.Basic
import CodeFolding.Unicode.Age
import CodeFolding.Unicode.Break
import CodeFolding.Unicode.CaseFolding
/-!
# Escapes in regular expressions

Every reader takes the text that is left and gives what it has read with the text behind it, or
nothing if the text is not well formed.
-/
namespace CodeFolding

/-! ## Sets by name

Names of properties and of their values are compared loosely: case, blanks, dashes and underscores
do not count, nor does `is` in front. -/

/-- A name as it is compared. The name `isc` means a property and not the category `c`. -/
def looseName (name : Text) : String :=
  let keep := fun (t : Text) =>
    (t.filter fun c => c.toNat < 128 && c != ' ' && c != '_' && c != '-').map Char.toLower
  let begins := (name.take 2).map Char.toLower == ['i', 's']
  let kept := keep (if begins then name.drop 2 else name)
  String.ofList (if begins && kept == ['c'] then ['i', 's', 'c'] else kept)

namespace CharSet

/-- The characters with a property, of a category or of a script, whichever goes by the name. -/
def named? (name : Text) : Option CharSet :=
  let name := looseName name
  NamedSet.find? Property.all name <|> NamedSet.find? Category.all name <|>
    (Script.find? name).map Script.members

/-- The characters for which a property has a value. -/
def valued? (property value : Text) : Option CharSet :=
  let value := looseName value
  match looseName property with
  | "gc" | "generalcategory" => NamedSet.find? Category.all value
  | "sc" | "script" => (Script.find? value).map Script.members
  | "scx" | "scriptextensions" => (Script.find? value).map Script.extension
  | "age" => Version.characters? value
  | "gcb" | "graphemeclusterbreak" => NamedSet.find? GraphemeBreak.all value
  | "wb" | "wordbreak" => NamedSet.find? WordBreak.all value
  | "sb" | "sentencebreak" => NamedSet.find? SentenceBreak.all value
  | _ => none

end CharSet

namespace Regex

/-! ## Flags and escapes -/

structure Flags where
  ignoreCase : Bool := false
  /-- Lines have beginnings and ends of their own. -/
  multiLine : Bool := false
  /-- A dot stands for line ends, too. -/
  dotAll : Bool := false
  /-- Carriage returns end lines, too. -/
  returns : Bool := false
  /-- Classes and cases are those of ASCII. -/
  ascii : Bool := false
  /-- Blanks and comments do not count. -/
  verbose : Bool := false
deriving DecidableEq, Repr

/-- The set closed under case, if case does not count. -/
def Flags.fold (f : Flags) (s : CharSet) : CharSet :=
  if !f.ignoreCase then s else if f.ascii then s.foldAsciiCase else s.foldCase

/-- A set that may be used: one of ASCII where only ASCII is known. -/
def Flags.allow? (f : Flags) (s : CharSet) : Option CharSet :=
  if f.ascii && !s.isAscii then none else some s

/-! ## Blanks and comments -/

/-- The text without the blanks and comments in front. Comments end with their lines. -/
def skipComments (inComment : Bool) : Text → Text
  | [] => []
  | c :: rest =>
    if inComment then skipComments (c != '\n') rest
    else if isBlank c then skipComments false rest
    else if c = '#' then skipComments true rest
    else c :: rest

/-- The text without what does not count in front. -/
def Flags.skip (f : Flags) (t : Text) : Text := if f.verbose then skipComments false t else t

theorem length_skipComments_le (inComment : Bool) (t : Text) :
    (skipComments inComment t).length ≤ t.length := by
  fun_induction skipComments inComment t <;> grind

theorem Flags.length_skip_le (f : Flags) (t : Text) : (f.skip t).length ≤ t.length := by
  unfold Flags.skip
  split
  · exact length_skipComments_le false t
  · exact Nat.le_refl _

/-- Characters up to the first one that a test refuses, with what does not count between them left
out. -/
def Flags.takeWhile (f : Flags) (test : Char → Bool) (t : Text) : Text × Text :=
  match t with
  | [] => ([], [])
  | c :: rest =>
    if test c then
      let (taken, rest) := f.takeWhile test (f.skip rest)
      (c :: taken, rest)
    else ([], c :: rest)
termination_by t.length
decreasing_by exact Nat.lt_succ_of_le (f.length_skip_le _)

/-! ## Escapes -/

inductive Escape where
  | char (c : Char)
  /-- A character by the number of a byte. -/
  | byte (c : Char)
  | set (s : CharSet)
  | anchor (a : Anchor)

/-- A code point in exactly so many hexadecimal digits. -/
def fixedCode? (f : Flags) : (count : Nat) → (digits : Text) → Text → Option (Char × Text)
  | 0, digits, t => do return (← Text.codePoint? digits.reverse, t)
  | n + 1, digits, t =>
    match t with
    | d :: rest =>
      if (digitValue? d).isSome then fixedCode? f n (d :: digits) (f.skip rest) else none
    | [] => none

/-- A code point in hexadecimal: `count` digits, or any number of them in braces. -/
def hexadecimal? (f : Flags) (count : Nat) (t : Text) : Option (Escape × Text) :=
  match f.skip t with
  | '{' :: rest =>
    match f.takeWhile (· != '}') (f.skip rest) with
    | (digits, _ :: rest) => do return (.char (← Text.codePoint? digits), f.skip rest)
    | (_, []) => none
  | t => do
    let (c, rest) ← fixedCode? f count [] t
    return (if count = 2 then .byte c else .char c, rest)

/-- Cuts a text at a mark, if the mark is in it. -/
def cutAt? (mark : Text) : Text → Option (Text × Text)
  | [] => none
  | c :: rest =>
    if mark.isPrefixOf (c :: rest) then some ([], (c :: rest).drop mark.length)
    else (cutAt? mark rest).map fun (front, behind) => (c :: front, behind)

/-- The set that stands in the braces of a property: a name, or a name and a value, of which all
other characters may be meant. The first part says so. -/
def property? (t : Text) : Option (Bool × CharSet) :=
  match cutAt? ['!', '='] t with
  | some (name, value) => (CharSet.valued? name value).map (true, ·)
  | none =>
    match cutAt? [':'] t <|> cutAt? ['='] t with
    | some (name, value) => (CharSet.valued? name value).map (false, ·)
    | none => (CharSet.named? t).map (false, ·)

/-- The set of a property in braces or of one letter. It has to be closed under case before it is
negated. -/
def propertyEscape? (f : Flags) (negated : Bool) (t : Text) : Option (Escape × Text) := do
  if f.ascii then none
  let ((other, s), rest) ← match f.skip t with
    | '{' :: rest =>
      match f.takeWhile (· != '}') (f.skip rest) with
      | (name, _ :: rest) => (property? name).map (·, rest)
      | (_, []) => none
    | '\\' :: _ => none
    | c :: rest => (CharSet.named? [c]).map fun s => ((false, s), f.skip rest)
    | [] => none
  let s := f.fold s
  return (.set (if negated != other then s.compl else s), rest)

/-- A set that an escape of one letter stands for, or all other characters. -/
def setEscape? (f : Flags) (unicode ascii : CharSet) (negated : Bool) (rest : Text) :
    Option (Escape × Text) := do
  let s := if f.ascii then ascii else unicode
  return (.set (← f.allow? (if negated then s.compl else s)), rest)

/-- What may stand in braces behind a boundary of words. Other braces count repetitions. -/
def boundaryName? (f : Flags) (t : Text) : Option (Boundary × Text) :=
  let isLetter := fun (c : Char) => c.isAlpha || c == '-'
  match t with
  | '{' :: rest =>
    match f.skip rest with
    | [] => none
    | c :: rest =>
      if !isLetter c then some (.edge, t)
      else
        match f.takeWhile isLetter (c :: rest) with
        | (name, '}' :: rest) =>
          match String.ofList name with
          | "start" => some (.start, rest)
          | "end" => some (.finish, rest)
          | "start-half" => some (.startHalf, rest)
          | "end-half" => some (.finishHalf, rest)
          | _ => none
        | _ => none
  | _ => some (.edge, t)

/-- The escape behind a backslash. -/
def escape? (f : Flags) : Text → Option (Escape × Text)
  | [] => none
  | c :: rest =>
    match c with
    | 'd' => setEscape? f Category.decimalNumber (.range 0x30 0x39) false rest
    | 'D' => setEscape? f Category.decimalNumber (.range 0x30 0x39) true rest
    | 's' => setEscape? f Property.whiteSpace (.ofRanges [(9, 13), (32, 32)]) false rest
    | 'S' => setEscape? f Property.whiteSpace (.ofRanges [(9, 13), (32, 32)]) true rest
    | 'w' => setEscape? f Property.word asciiWord false rest
    | 'W' => setEscape? f Property.word asciiWord true rest
    | 'p' => propertyEscape? f false rest
    | 'P' => propertyEscape? f true rest
    | 'b' => do
      let (b, rest) ← boundaryName? f rest
      return (.anchor (.word b f.ascii), rest)
    | 'B' => some (.anchor (.word .noEdge f.ascii), rest)
    | '<' => some (.anchor (.word .start f.ascii), rest)
    | '>' => some (.anchor (.word .finish f.ascii), rest)
    | 'A' => some (.anchor .textStart, rest)
    | 'z' => some (.anchor .textEnd, rest)
    | 'a' => some (.char '\x07', rest)
    | 'f' => some (.char '\x0C', rest)
    | 'n' => some (.char '\n', rest)
    | 'r' => some (.char '\r', rest)
    | 't' => some (.char '\t', rest)
    | 'v' => some (.char '\x0B', rest)
    | 'x' => hexadecimal? f 2 rest
    | 'u' => hexadecimal? f 4 rest
    | 'U' => hexadecimal? f 8 rest
    | _ => if c.toNat < 128 && !c.isAlphanum then some (.char c, rest) else none

/-- The character that an escape stands for. By a byte, only ASCII can be meant where only ASCII is
known. -/
def Escape.char? (f : Flags) : Escape → Option Char
  | .char c => some c
  | .byte c => if f.ascii && 128 ≤ c.toNat then none else some c
  | _ => none

end Regex

end CodeFolding
