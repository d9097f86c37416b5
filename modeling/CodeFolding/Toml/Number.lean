import CodeFolding.Toml.Lexical
/-!
# Numbers, dates and times of TOML
-/
namespace CodeFolding.Toml

/-! ## Digits -/

/-- The digits that follow a digit. A single underscore may stand between two of them. -/
def moreDigits (isDigit : Char → Bool) : Text → (reversed : Text) → Text × Text
  | [], reversed => (reversed.reverse, [])
  | '_' :: d :: rest, reversed =>
    if isDigit d then moreDigits isDigit rest (d :: reversed)
    else (reversed.reverse, '_' :: d :: rest)
  | d :: rest, reversed =>
    if isDigit d then moreDigits isDigit rest (d :: reversed) else (reversed.reverse, d :: rest)

/-- One digit or more, with underscores between them. -/
def digits? (isDigit : Char → Bool) : Text → Option (Text × Text)
  | d :: rest => if isDigit d then some (moreDigits isDigit rest [d]) else none
  | [] => none

/-- Whether a minus sign is in front, and the text behind the sign. -/
def sign : Text → Bool × Text
  | '-' :: rest => (true, rest)
  | '+' :: rest => (false, rest)
  | t => (false, t)

/-- A decimal number that is 0 or has no 0 in front. -/
def decimal? (t : Text) : Option (Text × Text) :=
  match t with
  | '0' :: rest => some (['0'], rest)
  | _ => digits? Char.isDigit t

/-! ## Integers -/

/-- Integers have 64 bits, one of which is the sign. -/
def inRange (n : Int) : Bool := -0x8000000000000000 ≤ n && n < 0x8000000000000000

/-- An integer in a base other than ten, behind the sign of the base. -/
def based? (base : Nat) (isDigit : Char → Bool) (t : Text) : Option (Int × Text) := do
  let (digits, rest) ← digits? isDigit t
  let n : Int := Text.ofDigits base digits
  if inRange n then some (n, rest) else none

/-- An integer. Bases other than ten have neither a plus nor a minus. -/
def integer? (t : Text) : Option (Int × Text) :=
  match t with
  | '0' :: 'x' :: rest => based? 16 (fun c => (digitValue? c).isSome) rest
  | '0' :: 'o' :: rest => based? 8 (fun c => '0' ≤ c && c ≤ '7') rest
  | '0' :: 'b' :: rest => based? 2 (fun c => c == '0' || c == '1') rest
  | _ => do
    let (negative, rest) := sign t
    let (digits, rest) ← decimal? rest
    let n : Int := Text.ofDigits 10 digits
    let n := if negative then -n else n
    if inRange n then some (n, rest) else none

/-! ## Numbers with a fraction or an exponent -/

/-- The least number that is too large for 64 bits: half a step above the largest one. -/
def tooLarge : Nat := Nat.pow 2 1024 - Nat.pow 2 970

/-- Whether `digits` times ten to the power of `exponent` is too large for 64 bits. Numbers far
away from the bound are told by the count of their digits. -/
def isTooLarge (digits : Text) (exponent : Int) : Bool :=
  let digits := digits.dropWhile (· == '0')
  let magnitude : Int := digits.length + exponent
  if digits.isEmpty || magnitude ≤ 308 then false
  else if 311 ≤ magnitude then true
  else
    let n := Text.ofDigits 10 digits
    if 0 ≤ exponent then tooLarge ≤ n * Nat.pow 10 exponent.toNat
    else tooLarge * Nat.pow 10 (-exponent).toNat ≤ n

/-- The exponent behind its `e`. -/
def exponent? (t : Text) : Option (Int × Text) :=
  match t with
  | e :: rest =>
    if e = 'e' || e = 'E' then do
      let (negative, rest) := sign rest
      let (digits, rest) ← digits? Char.isDigit rest
      let n : Int := Text.ofDigits 10 digits
      return (if negative then -n else n, rest)
    else none
  | [] => none

/-- What is written in front of `rest` in a text that ends in it. -/
def writtenBefore (t rest : Text) : Text := t.take (t.length - rest.length)

/-- A decimal number with a fraction or an exponent, as it is written. It must not be too large;
below zero every magnitude is allowed. -/
def fraction? (t : Text) : Option (Text × Text) := do
  let (negative, rest) := sign t
  let (whole, rest) ← decimal? rest
  let (part, exponent, rest) ← match rest with
    | '.' :: rest => do
      let (part, rest) ← digits? Char.isDigit rest
      match exponent? rest with
      | some (e, rest) => pure (part, e, rest)
      | none => pure (part, 0, rest)
    | _ => do
      let (e, rest) ← exponent? rest
      pure ([], e, rest)
  if !negative && isTooLarge (whole ++ part) (exponent - part.length) then none
  else some (writtenBefore t rest, rest)

/-- An infinite number or one that is no number, as it is written. -/
def special? (t : Text) : Option (Text × Text) :=
  match (sign t).2 with
  | 'i' :: 'n' :: 'f' :: rest => some (writtenBefore t rest, rest)
  | 'n' :: 'a' :: 'n' :: rest => some (writtenBefore t rest, rest)
  | _ => none

/-! ## Dates and times -/

/-- A number of exactly `count` decimal digits. -/
def fixed? (count : Nat) (t : Text) : Option (Nat × Text) :=
  let digits := t.take count
  if digits.length = count && digits.all Char.isDigit then
    some (Text.ofDigits 10 digits, t.drop count)
  else none

/-- A number of two digits between two bounds. -/
def within? (low high : Nat) (t : Text) : Option (Nat × Text) := do
  let (n, rest) ← fixed? 2 t
  if low ≤ n && n ≤ high then some (n, rest) else none

def behind? (c : Char) : Text → Option Text
  | d :: rest => if d = c then some rest else none
  | [] => none

def daysIn (year month : Nat) : Nat :=
  if month = 2 then
    if year % 4 = 0 && (year % 100 != 0 || year % 400 = 0) then 29 else 28
  else if month = 4 || month = 6 || month = 9 || month = 11 then 30
  else 31

def behindDate? (t : Text) : Option Text := do
  let (year, rest) ← fixed? 4 t
  let (month, rest) ← within? 1 12 (← behind? '-' rest)
  let (_, rest) ← within? 1 (daysIn year month) (← behind? '-' rest)
  return rest

def behindTime? (t : Text) : Option Text := do
  let (_, rest) ← within? 0 23 t
  let (_, rest) ← within? 0 59 (← behind? ':' rest)
  let (_, rest) ← within? 0 60 (← behind? ':' rest)
  match rest with
  | '.' :: d :: more => return if d.isDigit then more.dropWhile Char.isDigit else rest
  | _ => return rest

def behindOffset? (t : Text) : Option Text :=
  match t with
  | c :: rest =>
    if c = 'Z' || c = 'z' then some rest
    else if c = '+' || c = '-' then do
      let (_, rest) ← within? 0 23 rest
      let (_, rest) ← within? 0 59 (← behind? ':' rest)
      return rest
    else none
  | [] => none

def behindDateTime (t : Text) : Text :=
  match t with
  | c :: rest =>
    if c = 'T' || c = 't' || c = ' ' then
      match behindTime? rest with
      | some rest => (behindOffset? rest).getD rest
      | none => t
    else t
  | [] => t

/-- A date, a time or both, as it is written. -/
def datetime? (t : Text) : Option (Text × Text) := do
  let rest ← ((behindDate? t).map behindDateTime) <|> behindTime? t
  return (writtenBefore t rest, rest)

end CodeFolding.Toml
