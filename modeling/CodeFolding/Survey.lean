import CodeFolding.Header
import CodeFolding.Survey.Comments
import CodeFolding.Token.Lexer
/-!
# Surveys

What folding needs to know about a file: its documentation, its methods, and the lines that begin
with a comment.

Braces that are code are paired like parentheses. A closing brace without a partner is passed over,
an opening one without a partner opens nothing. A pair is a method if the header collected in front
of it names one.
-/
namespace CodeFolding

/-- The code since the last brace or semicolon, last character first, and the line it begins on. -/
structure HeaderText where
  reversed : Text := []
  line : Option Nat := none

namespace HeaderText

/-- Stands for any number of blanks and comments. -/
def addBlank (h : HeaderText) : HeaderText :=
  match h.reversed with
  | [] | ' ' :: _ => h
  | _ => { h with reversed := ' ' :: h.reversed }

/-- Adds code that is found while the given line is running. -/
def addCode (h : HeaderText) (code : Text) (line : Nat) : HeaderText :=
  ⟨code.reverse ++ h.reversed, h.line <|> some line⟩

/-- The name of the method the header declares and the line it begins on. -/
def method? (h : HeaderText) (openLine : Nat) : Option (Text × Nat) :=
  (Header.method? h.reversed.reverse).map fun name => (name, h.line.getD openLine)

end HeaderText

/-- A brace that waits for its partner. -/
structure OpenBrace where
  /-- Name and first line of the method whose body it opens. -/
  method : Option (Text × Nat)
  line : Nat
  offset : Nat

/-- What is known in the middle of a file: the running header, the open braces, innermost first,
and the methods that are closed, the last one first. -/
structure BraceState where
  header : HeaderText := {}
  braces : List OpenBrace := []
  methods : List Method := []

namespace BraceState

/-- An opening brace: it waits, and a new header begins. -/
def openBrace (s : BraceState) (line offset : Nat) : BraceState :=
  { s with header := {}, braces := ⟨s.header.method? line, line, offset⟩ :: s.braces }

/-- A closing brace: it takes the innermost open one, and a new header begins. -/
def closeBrace (s : BraceState) (line offset : Nat) : BraceState :=
  match s.braces with
  | [] => { s with header := {} }
  | b :: outer =>
    { header := {}
      braces := outer
      methods := match b.method with
        | some (name, headerLine) =>
          ⟨name, headerLine, b.line, line, b.offset, offset, []⟩ :: s.methods
        | none => s.methods }

/-- What stands for a literal in a header. -/
def literalStandIn : Text := ['"', '"']

def read (s : BraceState) (t : PlacedToken) : BraceState :=
  match t.kind with
  | .newline | .blank | .blockComment => { s with header := s.header.addBlank }
  | .lineComment => s
  | .literal => { s with header := s.header.addCode literalStandIn t.endLine }
  | .code =>
    match t.text with
    | ['{'] => s.openBrace t.line t.offset
    | ['}'] => s.closeBrace t.line t.offset
    | [';'] => { s with header := {} }
    | code => { s with header := s.header.addCode code t.line }

end BraceState

/-- The methods of a file in the order of their opening braces, still without comments. -/
def Language.methodFrames (lang : Language) (tokens : List PlacedToken) : List Method :=
  if lang = .braces then
    (tokens.foldl BraceState.read {}).methods.mergeSort (fun m n => m.openOffset ≤ n.openOffset)
  else []

/-- Whether an offset lies between the braces of a method. -/
def Method.encloses (m : Method) (offset : Nat) : Bool :=
  m.openOffset < offset && offset < m.closeOffset

/-- The method with its comments, out of all line comments of the file. -/
def Method.withComments (all : List (Nat × LineComment)) (m : Method) : Method :=
  { m with comments := (all.filter (fun c => m.encloses c.1)).map Prod.snd }

/-- What is known about a file. -/
structure Survey where
  language : Language
  docComments : List Text
  methods : List Method
  commentFlags : Array Bool
deriving DecidableEq, Repr

namespace Survey

def ofText (lang : Language) (t : Text) : Survey :=
  let tokens := lang.tokens t
  let placed := PlacedToken.place tokens
  { language := lang
    docComments := lang.docComments tokens
    methods := (lang.methodFrames placed).map (Method.withComments (lineComments placed))
    commentFlags := flagLines tokens }

/-- Whether a line begins with a comment; lines the file does not have do not. -/
def isComment (v : Survey) (line : Nat) : Bool := v.commentFlags[line]?.getD false

end Survey

end CodeFolding
