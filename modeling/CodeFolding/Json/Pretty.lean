import CodeFolding.Text.Basic
/-!
# JSON documents

Values of JSON and their printed form: an item per line, indented by two spaces for each array or
object around it. Objects print their members in the order in which they list them.
-/
namespace CodeFolding

inductive JsonValue where
  | bool (b : Bool)
  | number (n : Nat)
  | string (s : String)
  | array (items : List JsonValue)
  | object (members : List (String × JsonValue))

namespace JsonValue

def hexDigit (n : Nat) : Char := Nat.digitChar n

/-- A character as it is written in a string. -/
def escaped (c : Char) : Text :=
  if c = '"' then ['\\', '"']
  else if c = '\\' then ['\\', '\\']
  else if c = '\n' then ['\\', 'n']
  else if c = '\r' then ['\\', 'r']
  else if c = '\t' then ['\\', 't']
  else if c = '\x08' then ['\\', 'b']
  else if c = '\x0C' then ['\\', 'f']
  else if c.toNat < 32 then
    ['\\', 'u', '0', '0', hexDigit (c.toNat / 16), hexDigit (c.toNat % 16)]
  else [c]

def quoted (s : String) : String := "\"" ++ String.ofList (s.toList.flatMap escaped) ++ "\""

/-- The beginning of a line inside a number of arrays and objects. -/
def newLine (depth : Nat) : String := "\n" ++ String.ofList (List.replicate (2 * depth) ' ')

mutual

/-- Writes a value behind what is written. -/
def writeTo (depth : Nat) (written : String) : JsonValue → String
  | bool b => written ++ toString b
  | number n => written ++ toString n
  | string s => written ++ quoted s
  | array [] => written ++ "[]"
  | array (v :: items) =>
    writeItems (depth + 1) (writeTo (depth + 1) (written ++ "[" ++ newLine (depth + 1)) v) items ++
      newLine depth ++ "]"
  | object [] => written ++ "\x7b\x7d"
  | object ((key, v) :: members) =>
    writeMembers (depth + 1)
      (writeTo (depth + 1) (written ++ "\x7b" ++ newLine (depth + 1) ++ quoted key ++ ": ") v)
      members ++ newLine depth ++ "\x7d"

/-- Writes the items of an array that are not the first. -/
def writeItems (depth : Nat) (written : String) : List JsonValue → String
  | [] => written
  | v :: items => writeItems depth (writeTo depth (written ++ "," ++ newLine depth) v) items

/-- Writes the members of an object that are not the first. -/
def writeMembers (depth : Nat) (written : String) : List (String × JsonValue) → String
  | [] => written
  | (key, v) :: members =>
    writeMembers depth
      (writeTo depth (written ++ "," ++ newLine depth ++ quoted key ++ ": ") v) members

end

def pretty (v : JsonValue) : String := writeTo 0 "" v

end JsonValue

end CodeFolding
