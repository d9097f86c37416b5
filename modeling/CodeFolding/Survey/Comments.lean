import CodeFolding.Marker
import CodeFolding.Token.Basic
/-!
# Comments of a file

What the comments of a file say about it: the documentation, the comments at the ends of lines, and
which lines begin with a comment.
-/
namespace CodeFolding

/-- A method with a body in braces. -/
structure Method where
  name : Text
  /-- The line on which the declaration begins. -/
  headerLine : Nat
  /-- The line of the brace that opens the body. -/
  openLine : Nat
  /-- The line of the brace that closes the body. -/
  closeLine : Nat
  openOffset : Nat
  closeOffset : Nat
  /-- The line comments between the braces. -/
  comments : List LineComment := []
deriving DecidableEq, Repr

/-- The lines behind the opening brace, up to the one of the closing brace. -/
def Method.body (m : Method) : LineRange := ⟨m.openLine + 1, m.closeLine⟩

/-- Whether a token is documentation: a block comment with the sign of documentation in front that
is not the shortest comment there is. -/
def Language.isDoc (lang : Language) (t : Token) : Bool :=
  t.kind == .blockComment && lang.comments.doc.any (·.isPrefixOf t.text) &&
    t.text != ['/', '*', '*', '/']

def Language.docComments (lang : Language) (tokens : List Token) : List Text :=
  (tokens.filter lang.isDoc).map Token.text

/-- The comment that a token makes with its offset. The carriage returns in front of the line feed
are not part of it. -/
def PlacedToken.lineComment? (t : PlacedToken) : Option (Nat × LineComment) :=
  if t.kind = .lineComment then some (t.offset, ⟨t.line, Text.dropReturns t.text⟩) else none

def lineComments (tokens : List PlacedToken) : List (Nat × LineComment) :=
  tokens.filterMap PlacedToken.lineComment?

/-! ## Lines that begin with a comment -/

/-- The lines that are finished, and whether the running line begins with a comment, once it has a
character that is not blank. -/
structure LineFlags where
  done : Array Bool := #[]
  running : Option Bool := none

namespace LineFlags

/-- Reads one more character, which is part of a comment or not. -/
def read (isComment : Bool) (s : LineFlags) (c : Char) : LineFlags :=
  if c = '\n' then ⟨s.done.push (s.running == some true), none⟩
  else if isBlank c then s
  else { s with running := s.running <|> some isComment }

def readToken (s : LineFlags) (t : Token) : LineFlags := t.text.foldl (read t.kind.isComment) s

/-- The flags of all lines, the running one included. -/
def all (s : LineFlags) : Array Bool := s.done.push (s.running == some true)

end LineFlags

/-- For each line of a file whether its first character that is not blank is part of a comment. -/
def flagLines (tokens : List Token) : Array Bool := (tokens.foldl LineFlags.readToken {}).all

end CodeFolding
