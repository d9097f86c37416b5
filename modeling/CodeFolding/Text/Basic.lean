/-!
# Texts

A text is its list of characters. Positions in a text are byte offsets into its UTF-8 form, so
`size` is the measure every offset is built from. Blanks are the characters with the Unicode
property White_Space; digits write numbers and, in hexadecimal, code points.
-/
namespace CodeFolding

/-- A text, character by character. -/
abbrev Text := List Char

namespace Text

/-- Bytes in the UTF-8 form of a text. -/
def size (t : Text) : Nat := t.foldl (fun n c => n + c.utf8Size) 0

def bytes (t : Text) : List UInt8 := t.flatMap String.utf8EncodeChar

def newlines (t : Text) : Nat := t.count '\n'

/-- Whether `part` stands somewhere in the text. The empty part stands in every text. -/
def holds (part : Text) : Text → Bool
  | [] => part.isEmpty
  | c :: rest => part.isPrefixOf (c :: rest) || holds part rest

/-- Characters up to and including the first `mark`, added to `n`; the whole text if `mark` is
absent. -/
def lengthThrough (mark : Text) : Text → Nat → Nat
  | [], n => n
  | c :: rest, n =>
    if mark.isPrefixOf (c :: rest) then n + mark.length else lengthThrough mark rest (n + 1)

/-- The text behind the bracket that closes the innermost of `depth` open ones. A bracket that is
met while none is open counts as the first. -/
def behindClosing (opening closing : Char) : Nat → Text → Option Text
  | _, [] => none
  | depth, c :: rest =>
    if c = opening then behindClosing opening closing (depth + 1) rest
    else if c = closing then
      match depth with
      | 0 => none
      | 1 => some rest
      | depth + 2 => behindClosing opening closing (depth + 1) rest
    else behindClosing opening closing depth rest

/-- The lines joined by single line feeds. -/
def unlines (lines : List Text) : Text := List.intercalate ['\n'] lines

theorem foldl_utf8Size (t : Text) (n : Nat) :
    t.foldl (fun n c => n + c.utf8Size) n = n + size t := by
  induction t generalizing n with
  | nil => rfl
  | cons c t ih => simp only [size, List.foldl_cons]; rw [ih, ih (0 + c.utf8Size)]; omega

@[simp] theorem size_nil : size [] = 0 := rfl

@[simp] theorem size_cons (c : Char) (t : Text) : size (c :: t) = c.utf8Size + size t := by
  rw [size, List.foldl_cons, foldl_utf8Size, Nat.zero_add]

@[simp] theorem size_append (s t : Text) : size (s ++ t) = size s + size t := by
  induction s with
  | nil => simp
  | cons c s ih => simp [ih, Nat.add_assoc]

theorem length_le_lengthThrough (mark t : Text) (n : Nat) : n ≤ lengthThrough mark t n := by
  fun_induction lengthThrough mark t n <;> omega

/-- **A text holds a part just if the part is a piece of it.** -/
theorem holds_iff {part t : Text} : holds part t = true ↔ part <:+: t := by
  induction t with
  | nil => simp [holds]
  | cons c t ih =>
    rw [holds, Bool.or_eq_true, ih, List.isPrefixOf_iff_prefix, List.infix_cons_iff]

end Text

/-! ## Blanks -/

/-- The code points with the property White_Space. -/
def isBlank (c : Char) : Bool :=
  let n := c.toNat
  (9 ≤ n && n ≤ 13) || n == 0x20 || n == 0x85 || n == 0xA0 || n == 0x1680 ||
    (0x2000 ≤ n && n ≤ 0x200A) || n == 0x2028 || n == 0x2029 || n == 0x202F || n == 0x205F ||
    n == 0x3000

namespace Text

def trimStart (t : Text) : Text := t.dropWhile isBlank

def trimEnd (t : Text) : Text := (t.reverse.dropWhile isBlank).reverse

def trim (t : Text) : Text := trimEnd (trimStart t)

/-- The text without the carriage returns at its end. -/
def dropReturns (t : Text) : Text := (t.reverse.dropWhile (· == '\r')).reverse

end Text

/-! ## Digits -/

def digitValue? (c : Char) : Option Nat :=
  if c.isDigit then some (c.toNat - '0'.toNat)
  else if 'a' ≤ c ∧ c ≤ 'f' then some (c.toNat - 'a'.toNat + 10)
  else if 'A' ≤ c ∧ c ≤ 'F' then some (c.toNat - 'A'.toNat + 10)
  else none

namespace Text

/-- The number that digits write in a base of at most sixteen. -/
def ofDigits (base : Nat) (digits : Text) : Nat :=
  digits.foldl (fun n d => n * base + (digitValue? d).getD 0) 0

/-- The character whose code point hexadecimal digits write. Halves of a pair are no characters. -/
def codePoint? (digits : Text) : Option Char :=
  if digits.isEmpty || digits.any (fun d => (digitValue? d).isNone) then none
  else
    let n := ofDigits 16 digits
    if n.isValidChar then some (Char.ofNat n) else none

/-- The character that exactly `count` hexadecimal digits in front of a text write. -/
def leadingCodePoint? (count : Nat) (t : Text) : Option Char :=
  let digits := t.take count
  if digits.length < count then none else codePoint? digits

end Text

end CodeFolding
