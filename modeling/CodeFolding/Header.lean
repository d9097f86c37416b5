import CodeFolding.Text.Word
/-!
# Method headers

The header of a brace is the code in front of it, from the last brace or semicolon on. A header
names a method if it is introduced by a word such as `fn`, or if it reads like a declaration
`type name(parameters)` and not like a control statement, a call or an assignment.
-/
namespace CodeFolding.Header

/-- Words of statements and expressions. They are never the name of a method without a word that
introduces functions. -/
def controlWords : List Text :=
  ["if", "for", "while", "switch", "catch", "synchronized", "try", "else", "do", "return", "new",
    "throw", "using", "lock", "foreach", "fixed", "when", "match", "loop", "unsafe", "sizeof",
    "typeof", "with", "await", "assert", "case", "defer", "go", "select", "super", "this"].map
    String.toList

/-- Words that introduce a type or a namespace. -/
def typeWords : List Text :=
  ["class", "interface", "enum", "record", "struct", "trait", "impl", "namespace", "object",
    "union", "extension", "mod"].map String.toList

/-- Words that introduce a function. -/
def functionWords : List Text := ["fn", "func", "fun", "function", "def"].map String.toList

/-- What may stand between the parameters and the body. -/
def signatureEnds : List Text :=
  ["throws", "const", "override", "noexcept", "final", "where", "mutable", "async", ":"].map
    String.toList

/-- What is behind the parenthesis that closes the first one. -/
def behindParens (t : Text) : Option Text := Text.behindClosing '(' ')' 0 t

/-- The text behind the first annotation, without blanks in front. The argument is what follows
the `@`; nothing remains if the arguments of the annotation are never closed. -/
def behindDecorator (t : Text) : Text :=
  let behind := Text.trimStart (t.dropWhile (fun c => isWordChar c || c == '.'))
  if ['('].isPrefixOf behind then ((behindParens behind).map Text.trimStart).getD [] else behind

/-- A header without the annotations in front. Each annotation takes a character at least, so
`fuel` annotations are all there are once it reaches the length of the header. -/
def dropAnnotationsFuel : (fuel : Nat) → Text → Text
  | 0, t => t
  | _ + 1, [] => []
  | fuel + 1, c :: rest =>
    if c = '@' then dropAnnotationsFuel fuel (behindDecorator rest) else c :: rest

def dropAnnotations (t : Text) : Text := dropAnnotationsFuel t.length t

/-- A text without a type-parameter clause at its end and the blanks in front of it, as in
`List<T> all<T>`. -/
def dropTypeParameters (t : Text) : Text :=
  if ['>'].isPrefixOf t.reverse then
    match Text.behindClosing '>' '<' 0 t.reverse with
    | some front => Text.trimEnd front.reverse
    | none => t
  else t

/-- The name of a method that a word such as `func` introduces. `front` is the header up to its
first parenthesis, `parens` the rest. The name follows the word, or else the parenthesis that holds
the receiver. -/
def introducedName? (words : List Text) (parens : Text) : Option Text :=
  match words with
  | name :: _ => some name
  | [] => do
    let name := Text.firstWord (Text.trimStart (← behindParens parens))
    if name.isEmpty then none else some name

/-- The name of a method declared without an introducing word. -/
def declaredName? (front parens : Text) : Option Text := do
  let front := dropTypeParameters front
  let name := Text.lastWord front
  if name.isEmpty || controlWords.contains name || name.head?.any Char.isDigit then none
  let before := Text.trimEnd (Text.beforeLastWord front)
  if before.getLast? == some '.' || (Text.words before).contains "new".toList then none
  let tail := Text.trim (← behindParens parens)
  if tail.isEmpty || signatureEnds.any (·.isPrefixOf tail) then some name else none

/-- The name of the method that a header declares, if it declares one. -/
def method? (header : Text) : Option Text :=
  let h := dropAnnotations (Text.trim header)
  let parens := h.dropWhile (· != '(')
  if parens.isEmpty then none
  else
    let front := Text.trimEnd (h.takeWhile (· != '('))
    let words := Text.words front
    if words.any typeWords.contains then none
    else match words.dropWhile (fun w => !functionWords.contains w) with
      | _ :: behind => introducedName? behind parens
      | [] =>
        if Text.holds ['-', '>'] h || front.contains '=' then none
        else declaredName? front parens

end CodeFolding.Header
