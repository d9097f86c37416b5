import CodeFolding.Language
import CodeFolding.Text.Basic
/-!
# Tokens

The pieces a file is cut into. Nothing is left out: blanks, line feeds, comments and literals are
tokens, and of all other text each character is a token of its own.
-/
namespace CodeFolding

inductive TokenKind where
  | newline
  | blank
  | lineComment
  | blockComment
  | literal
  | code
deriving DecidableEq, Repr

def TokenKind.isComment : TokenKind → Bool
  | lineComment | blockComment => true
  | _ => false

structure Token where
  kind : TokenKind
  text : Text
deriving DecidableEq, Repr

/-- A token with the offset and the line at which it begins. -/
structure PlacedToken extends Token where
  offset : Nat
  line : Nat
deriving DecidableEq, Repr

namespace PlacedToken

def endLine (t : PlacedToken) : Nat := t.line + Text.newlines t.text

/-- Places one more token behind those placed so far, given the offset and line reached. -/
def placeNext : Array PlacedToken × Nat × Nat → Token → Array PlacedToken × Nat × Nat
  | (placed, offset, line), t =>
    (placed.push ⟨t, offset, line⟩, offset + Text.size t.text, line + Text.newlines t.text)

/-- The tokens of a file with their places. -/
def place (tokens : List Token) : List PlacedToken :=
  (tokens.foldl placeNext (#[], 0, 0)).1.toList

end PlacedToken

end CodeFolding
