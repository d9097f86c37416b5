import CodeFolding.Line.Basic
import CodeFolding.Text.Basic
/-!
# Markers

A marker is a phrase that is looked for in comments. One marker in the documentation switches
folding on for a file; two more narrow the lines of a method in which blocks are looked for.
-/
namespace CodeFolding

/-- A comment that runs to the end of its line. -/
structure LineComment where
  line : Nat
  text : Text
deriving DecidableEq, Repr

/-- The phrase that switches folding on for a file. -/
def activationMarker : Text := "use indentation-based folding strategy".toList

/-- The phrases around the lines of a method that are folded. -/
structure MarkerPair where
  opening : Text := "indentation-based folding start".toList
  closing : Text := "indentation-based folding end".toList
deriving DecidableEq, Repr

namespace MarkerPair

/-- Reads one more comment: the line behind the opening marker and the line of the closing one, as
far as they are found. A comment that holds both counts for the marker that is still missing, the
opening one first. -/
def read (m : MarkerPair) (found : Option Nat × Option Nat) (c : LineComment) :
    Option Nat × Option Nat :=
  if found.1.isNone && Text.holds m.opening c.text then (some (c.line + 1), found.2)
  else if found.2.isNone && Text.holds m.closing c.text then (found.1, some c.line)
  else found

/-- The lines to fold of a body with the given comments. Without an opening marker they are the
whole body, without a closing one they run to its end. -/
def narrow (m : MarkerPair) (comments : List LineComment) (body : LineRange) : LineRange :=
  match comments.foldl m.read (none, none) with
  | (some first, last) => ⟨first, last.getD body.last⟩
  | (none, _) => body

end MarkerPair

end CodeFolding
