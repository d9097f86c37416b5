/-!
# TOML values

A document is a table. Tables remember how they came to be, because that decides what a later line
of the document may add to them.
-/
namespace CodeFolding.Toml

/-- How a table came to be. -/
inductive Origin where
  /-- By a header of its own, or as the document itself. -/
  | header
  /-- As a step on the way to the table of a header. -/
  | implied
  /-- As a step of a dotted key. -/
  | dotted
  /-- Written between braces. Nothing can be added to it. -/
  | braces
deriving DecidableEq, Repr

/-- A value. Numbers with a fraction, dates and times are kept as they are written. -/
inductive Value where
  | string (s : String)
  | integer (n : Int)
  | float (written : List Char)
  | boolean (b : Bool)
  | datetime (written : List Char)
  | array (items : List Value)
  | table (origin : Origin) (entries : List (String × Value))
  /-- The tables of equal headers in double brackets, the last one first. -/
  | tables (lastFirst : List (List (String × Value)))

/-- Keys with their values. -/
abbrev Entries := List (String × Value)

namespace Value

def string? : Value → Option String
  | string s => some s
  | _ => none

def integer? : Value → Option Int
  | integer n => some n
  | _ => none

def boolean? : Value → Option Bool
  | boolean b => some b
  | _ => none

/-- The items of an array. Tables under equal headers are an array as well. -/
def items? : Value → Option (List Value)
  | array items => some items
  | tables lastFirst => some (lastFirst.reverse.map (table .header))
  | _ => none

end Value

namespace Entries

def get? (es : Entries) (key : String) : Option Value := es.lookup key

/-- The entries with another value for a key that they have. -/
def set (es : Entries) (key : String) (v : Value) : Entries :=
  es.map fun e => if e.1 = key then (key, v) else e

def add (es : Entries) (key : String) (v : Value) : Entries := es ++ [(key, v)]

/-! ## Putting values into their tables -/

/-- Changes the table at the end of a path by `change`, given its origin and its entries, and makes
the tables that are missing on the way. The path of a dotted key may only pass through tables that
no header has defined; other values end no path. -/
def changeAt (dotted : Bool) (change : Origin → Entries → Option Entries) :
    List String → Origin → Entries → Option Entries
  | [], origin, es => change origin es
  | key :: path, _, es =>
    match es.get? key with
    | none => do
      let made := if dotted then Origin.dotted else .implied
      return es.add key (.table made (← changeAt dotted change path made []))
    | some (.table origin inner) =>
      if origin = .braces || (dotted && origin = .header) then none
      else do return es.set key (.table origin (← changeAt dotted change path origin inner))
    | some (.tables (last :: earlier)) => do
      return es.set key (.tables ((← changeAt dotted change path .header last) :: earlier))
    | some _ => none

/-- Adds a value under a key that must be new, in a table that such a key may add to: a dotted key
ends in a table that dotted keys have made, a plain one in any other. -/
def addNew (isDotted : Bool) (key : String) (v : Value) (origin : Origin) (es : Entries) :
    Option Entries :=
  if (origin == .dotted) != isDotted || (es.get? key).isSome then none else some (es.add key v)

/-- Adds the value of a key whose steps but the last are `path`. -/
def addValue (path : List String) (key : String) (v : Value) (origin : Origin) (es : Entries) :
    Option Entries :=
  changeAt true (addNew (!path.isEmpty) key v) path origin es

/-- Begins the table of a header, which must not be defined yet. -/
def beginTable (key : String) (es : Entries) : Option Entries :=
  match es.get? key with
  | none => some (es.add key (.table .header []))
  | some (.table .implied inner) => some (es.set key (.table .header inner))
  | some _ => none

/-- Begins one more table under a header in double brackets. -/
def beginItem (key : String) (es : Entries) : Option Entries :=
  match es.get? key with
  | none => some (es.add key (.tables [[]]))
  | some (.tables lastFirst) => some (es.set key (.tables ([] :: lastFirst)))
  | some _ => none

end Entries

end CodeFolding.Toml
