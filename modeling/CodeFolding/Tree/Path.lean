import CodeFolding.Text.Basic
/-!
# Paths

A path is a text whose steps are separated by slashes. What a path leads to depends on the tree it
is followed in; here paths are only taken apart and put together. The names of files are bytes, and
need not be the bytes of a text; a path that is reported is made a text.
-/
namespace CodeFolding

/-- What stands behind the last `mark` of a list; nothing if nothing stands in front of it. -/
def behindLast? {α : Type} [BEq α] (mark : α) (l : List α) : Option (List α) :=
  match l.reverse.dropWhile (· != mark) with
  | _ :: _ :: _ => some (l.reverse.takeWhile (· != mark)).reverse
  | _ => none

/-! ## Paths as texts -/

namespace Path

/-- Reads one more character, from the right: the step that is running and the steps behind it. -/
def addToSteps (c : Char) : Text × List String → Text × List String
  | (step, steps) => if c = '/' then ([], String.ofList step :: steps) else (c :: step, steps)

/-- The texts between the slashes of a path. -/
def parts (p : String) : List String :=
  let (step, steps) := p.toList.foldr addToSteps ([], [])
  String.ofList step :: steps

/-- Whether a path starts from the root of all files. -/
def isAbsolute (p : String) : Bool := p.toList.head? == some '/'

def steps (p : String) : List String := (parts p).filter fun s => s != "" && s != "."

/-- Steps put together to a path. -/
def join (steps : List String) : String := "/".intercalate steps

/-- The text of a path with slashes for backslashes. -/
def withSlashes (p : String) : String :=
  String.ofList (p.toList.map fun c => if c = '\\' then '/' else c)

/-- What stands behind the last dot of a file's name; nothing if there is no dot but perhaps one in
front of the name. -/
def extensionOf (name : String) : String :=
  ((behindLast? '.' name.toList).map String.ofList).getD ""

def extension (p : String) : String := extensionOf ((steps p).getLastD "")

/-- All beginnings of a list of steps without its last one, the longest first. -/
def enclosing (steps : List String) : List (List String) :=
  (List.range steps.length).reverse.map steps.take

end Path

/-! ## Names in bytes -/

/-- The name of a file or a directory. -/
abbrev FileName := List UInt8

namespace FileName

def ofString (s : String) : FileName := Text.bytes s.toList

/-- Whether a byte can go on with a character. -/
def goesOn (b : UInt8) : Bool := 0x80 ≤ b && b ≤ 0xBF

/-- Whether a character of three or four bytes can begin with two bytes. Behind some bytes not every
one that goes on is allowed: there are no longer forms than needed, no halves of pairs, and no
characters behind the last one. -/
def beginsLong (b c : UInt8) : Bool :=
  0xE0 ≤ b && b ≤ 0xF4 && goesOn c && (b != 0xE0 || 0xA0 ≤ c) && (b != 0xED || c ≤ 0x9F) &&
    (b != 0xF0 || 0x90 ≤ c) && (b != 0xF4 || c ≤ 0x8F)

/-- Of bytes that no character begins with, how many are replaced together: as many as a character
could begin with, and at least one. -/
def brokenLength : List UInt8 → Nat
  | b :: c :: rest =>
    if !beginsLong b c then 1
    else if 0xF0 ≤ b && rest.head?.any goesOn then 3 else 2
  | _ => 1

/-- The character that bytes begin with. -/
def first? (bytes : List UInt8) : Option Char := (bytes.take 4).toByteArray.utf8DecodeChar? 0

/-- Stands for bytes that are no character. -/
def replacement : Char := '\uFFFD'

/-- The text of the bytes behind the first `read` ones, with replacements where there is none. -/
def textFrom : (read : Nat) → List UInt8 → Text
  | _, [] => []
  | read + 1, _ :: rest => textFrom read rest
  | 0, b :: rest =>
    match first? (b :: rest) with
    | some c => c :: textFrom (c.utf8Size - 1) rest
    | none => replacement :: textFrom (brokenLength (b :: rest) - 1) rest

/-- How a name is shown. -/
def shown (name : FileName) : String := String.ofList (textFrom 0 name)

/-- Names put together to the bytes of a path. -/
def join (names : List FileName) : FileName := List.intercalate ['/'.toUInt8] names

/-- The extension of a name. One that is no text counts as none. -/
def extension (name : FileName) : String :=
  ((behindLast? '.'.toUInt8 name).bind fun ext => String.fromUTF8? ext.toByteArray).getD ""

end FileName

end CodeFolding
