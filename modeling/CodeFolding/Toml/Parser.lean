import CodeFolding.Toml.Number
import CodeFolding.Toml.Value
/-!
# Reading TOML documents

A document of the format's version 1.0 is read into its table. A text that is no such document,
for instance because it defines a key twice, has none.
-/
namespace CodeFolding.Toml

/-- Arrays and tables in braces may stand in each other so often. -/
def nestingLimit : Nat := 79

/-- A key may have so many steps. -/
def keyLimit : Nat := 79

/-! ## Values -/

/-- A value that holds no others. -/
def scalar? (t : Text) : Option (Value × Text) :=
  match t with
  | 't' :: 'r' :: 'u' :: 'e' :: rest => some (.boolean true, rest)
  | 'f' :: 'a' :: 'l' :: 's' :: 'e' :: rest => some (.boolean false, rest)
  | _ =>
    ((string? t).map fun (s, rest) => (.string (String.ofList s), rest)) <|>
    ((datetime? t).map fun (s, rest) => (.datetime s, rest)) <|>
    ((fraction? t).map fun (s, rest) => (.float s, rest)) <|>
    ((special? t).map fun (s, rest) => (.float s, rest)) <|>
    ((integer? t).map fun (n, rest) => (.integer n, rest))

/-- The rest of an array, whose items `item?` reads. Each item takes a character at least. -/
def arrayFrom (item? : Text → Option (Value × Text)) :
    (fuel : Nat) → Text → (reversed : List Value) → Option (Value × Text)
  | 0, _, _ => none
  | fuel + 1, t, reversed =>
    match skipLines false t with
    | ']' :: rest => some (.array reversed.reverse, rest)
    | t => do
      let (v, rest) ← item? t
      match skipLines false rest with
      | ',' :: rest => arrayFrom item? fuel rest (v :: reversed)
      | ']' :: rest => some (.array (v :: reversed).reverse, rest)
      | _ => none

/-- A key, an equals sign and a value that `value?` reads. The key is split before its last
step. -/
def pair? (value? : Text → Option (Value × Text)) (t : Text) :
    Option ((List String × String × Value) × Text) := do
  let (steps, rest) ← key? keyLimit t
  let last ← steps.getLast?
  match rest with
  | '=' :: rest => do
    let (v, rest) ← value? (skipSpaces rest)
    return ((steps.dropLast, last, v), rest)
  | _ => none

/-- The rest of a table in braces, whose values `value?` reads. Each pair takes a character at
least. -/
def bracesFrom (value? : Text → Option (Value × Text)) :
    (fuel : Nat) → Text → Entries → Option (Value × Text)
  | 0, _, _ => none
  | fuel + 1, t, es => do
    let ((path, key, v), rest) ← pair? value? t
    let es ← es.addValue path key v .braces
    match skipSpaces rest with
    | ',' :: rest => bracesFrom value? fuel rest es
    | '}' :: rest => some (.table .braces es, rest)
    | _ => none

/-- A value with at most `depth` arrays and tables in each other. -/
def value? : (depth : Nat) → Text → Option (Value × Text)
  | 0, t => scalar? t
  | depth + 1, t =>
    match t with
    | '[' :: rest => arrayFrom (value? depth) rest.length rest []
    | '{' :: rest =>
      match skipSpaces rest with
      | '}' :: rest => some (.table .braces [], rest)
      | _ => bracesFrom (value? depth) rest.length rest []
    | _ => scalar? t

/-! ## Documents -/

/-- The table read so far and the path of the running header. -/
structure Reading where
  root : Entries := []
  header : List String := []

namespace Reading

/-- Adds a pair to the table of the running header. -/
def addPair (d : Reading) (path : List String) (key : String) (v : Value) : Option Reading := do
  let root ← d.root.changeAt false (fun _ => Entries.addValue path key v .header) d.header .header
  return { d with root }

/-- Begins the table of a header, as `begin?` does in the table it belongs to. -/
def addHeader (begin? : String → Entries → Option Entries) (d : Reading) (steps : List String) :
    Option Reading := do
  let key ← steps.getLast?
  let root ← d.root.changeAt false (fun _ => begin? key) steps.dropLast .header
  return ⟨root, steps⟩

end Reading

/-- Reads the expression that a line begins with, and gives the text behind it. -/
def expression? (d : Reading) (t : Text) : Option (Reading × Text) :=
  match t with
  | '[' :: '[' :: rest => do
    let (steps, rest) ← key? keyLimit rest
    return (← d.addHeader Entries.beginItem steps, ← behind? ']' (← behind? ']' rest))
  | '[' :: rest => do
    let (steps, rest) ← key? keyLimit rest
    return (← d.addHeader Entries.beginTable steps, ← behind? ']' rest)
  | _ => do
    let ((path, key, v), rest) ← pair? (value? nestingLimit) t
    return (← d.addPair path key v, rest)

/-- Reads line by line. Each line takes a character at least. -/
def readLines : (fuel : Nat) → Text → Reading → Option Reading
  | _, [], d => some d
  | 0, _, _ => none
  | fuel + 1, t, d =>
    match lineEnd? t with
    | some rest => readLines fuel rest d
    | none => do
      let (d, rest) ← expression? d (skipSpaces t)
      readLines fuel (← lineEnd? rest) d

/-- The table of a document, in ascending order of its keys. A byte order mark in front of the
document does not count. -/
def parse (t : Text) : Option Entries := do
  let t := match t with
    | '\uFEFF' :: rest => rest
    | _ => t
  let d ← readLines t.length t {}
  return d.root.mergeSort (fun a b => a.1 ≤ b.1)

end CodeFolding.Toml
