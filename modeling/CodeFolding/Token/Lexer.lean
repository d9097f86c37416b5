import CodeFolding.Token.Basic
/-!
# Cutting a file into tokens

Main statement: the texts of the tokens, one after the other, are the file (`flatMap_tokens`).
-/
namespace CodeFolding

/-! ## Literals

How far a string or character literal reaches, counted in characters. Every length includes the
quotes. -/

/-- Reads the rest of a quoted literal of which `n` characters are read. A backslash takes the next
character into the literal, whatever it is. Unless the literal may span lines, it ends in front of
the first line feed that is not taken this way. -/
def quotedFrom (quote : Char) (multiline : Bool) : (escaped : Bool) → Text → (n : Nat) → Nat
  | _, [], n => n
  | true, _ :: rest, n => quotedFrom quote multiline false rest (n + 1)
  | false, c :: rest, n =>
    if c = '\\' then quotedFrom quote multiline true rest (n + 1)
    else if c = quote then n + 1
    else if c = '\n' && !multiline then n
    else quotedFrom quote multiline false rest (n + 1)

/-- The length of the quoted literal that a text begins with. -/
def quotedLength (quote : Char) (multiline : Bool) (t : Text) : Nat :=
  quotedFrom quote multiline false (t.drop 1) 1

/-- How far behind a backslash the closing quote of a character literal may stand. -/
def escapeWindow : Nat := 10

/-- The length of the character literal that a text begins with. A lone quote, as in front of a
lifetime, begins none. -/
def charLength? (t : Text) : Option Nat :=
  match t.drop 1 with
  | [] => none
  | '\\' :: rest =>
    ((((rest.take escapeWindow).takeWhile (· != '\n')).drop 1).findIdx? (· == '\'')).map (· + 4)
  | c :: rest =>
    if c = '\n' || c = '\'' then none
    else match rest with
      | '\'' :: _ => some 3
      | _ => none

def tripleDouble : Text := ['"', '"', '"']

def tripleSingle : Text := ['\'', '\'', '\'']

/-- The length of the literal that a text begins with, if it begins with one. -/
def Language.literalLength? (lang : Language) (t : Text) : Option Nat :=
  if tripleDouble.isPrefixOf t then some (Text.lengthThrough tripleDouble (t.drop 3) 3)
  else if tripleSingle.isPrefixOf t && lang != .braces then
    some (Text.lengthThrough tripleSingle (t.drop 3) 3)
  else match t with
    | '"' :: _ => some (quotedLength '"' false t)
    | '`' :: _ => if lang = .braces then some (quotedLength '`' true t) else none
    | '\'' :: _ => if lang = .braces then charLength? t else some (quotedLength '\'' false t)
    | _ => none

/-! ## Tokens -/

namespace Language

/-- The length of the block comment that a text begins with. A comment that is never closed runs
to the end. -/
def blockLength? (lang : Language) (t : Text) : Option Nat := do
  let (opening, closing) ← lang.comments.block
  if opening.isPrefixOf t then
    return Text.lengthThrough closing (t.drop opening.length) opening.length
  else none

/-- Kind and length of the token that a text begins with. -/
def tokenAt (lang : Language) (t : Text) : TokenKind × Nat :=
  match t with
  | [] => (.code, 0)
  | c :: _ =>
    if c = '\n' then (.newline, 1)
    else if isBlank c then (.blank, 1)
    else if lang.comments.line.any (·.isPrefixOf t) then
      (.lineComment, (t.takeWhile (· != '\n')).length)
    else match lang.blockLength? t with
      | some n => (.blockComment, n)
      | none => match lang.literalLength? t with
        | some n => (.literal, n)
        | none => (.code, 1)

/-- Cuts a text whose first `skipped` characters belong to a token that is already cut. -/
def tokensFrom (lang : Language) : Text → (skipped : Nat) → Array Token → Array Token
  | [], _, done => done
  | _ :: rest, n + 1, done => tokensFrom lang rest n done
  | c :: rest, 0, done =>
    let (kind, n) := lang.tokenAt (c :: rest)
    tokensFrom lang rest (n - 1) (done.push ⟨kind, c :: rest.take (n - 1)⟩)

def tokens (lang : Language) (t : Text) : List Token := (lang.tokensFrom t 0 #[]).toList

theorem flatMap_tokensFrom (lang : Language) (t : Text) (skipped : Nat) (done : Array Token) :
    (lang.tokensFrom t skipped done).toList.flatMap Token.text =
      done.toList.flatMap Token.text ++ t.drop skipped := by
  induction t generalizing skipped done with
  | nil => simp [tokensFrom]
  | cons c rest ih =>
    cases skipped with
    | zero => simp [tokensFrom, ih]
    | succ n => simp [tokensFrom, ih]

theorem flatMap_tokens (lang : Language) (t : Text) :
    (lang.tokens t).flatMap Token.text = t := by
  simp [tokens, flatMap_tokensFrom]

end Language

end CodeFolding
