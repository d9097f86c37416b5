import CodeFolding.Text.Basic
/-!
# Blanks, comments, strings and keys of TOML

Every reader takes the text that is left and gives what it has read with the text behind it, or
nothing if the text does not begin with what it reads.
-/
namespace CodeFolding.Toml

/-- Blanks inside a line. -/
def isSpace (c : Char) : Bool := c == ' ' || c == '\t'

def skipSpaces (t : Text) : Text := t.dropWhile isSpace

def newline? : Text → Option Text
  | '\n' :: rest => some rest
  | '\r' :: '\n' :: rest => some rest
  | _ => none

/-- Characters that may be written: all but control characters, of which only the tab is one. -/
def isWritable (c : Char) : Bool := c == '\t' || (0x20 ≤ c.toNat && c.toNat != 0x7F)

/-- The text behind an end of line with blanks and a comment in front. The text may also end. -/
def lineEnd? (t : Text) : Option Text :=
  let behind := match skipSpaces t with
    | '#' :: rest => rest.dropWhile isWritable
    | rest => rest
  if behind.isEmpty then some [] else newline? behind

/-- The text behind blanks, comments and ends of lines. A comment that is not followed by the end
of its line is not passed. -/
def skipLines : (inComment : Bool) → Text → Text
  | _, [] => []
  | _, '\n' :: rest => skipLines false rest
  | _, '\r' :: '\n' :: rest => skipLines false rest
  | false, c :: rest =>
    if c = '#' then skipLines true rest
    else if isSpace c then skipLines false rest
    else c :: rest
  | true, c :: rest => if isWritable c then skipLines true rest else c :: rest

/-! ## Strings -/

/-- What a backslash with the text behind it stands for, and how many characters of that text it
takes. -/
def escape? : Text → Option (Char × Nat)
  | 'b' :: _ => some ('\x08', 1)
  | 'f' :: _ => some ('\x0C', 1)
  | 'n' :: _ => some ('\n', 1)
  | 'r' :: _ => some ('\r', 1)
  | 't' :: _ => some ('\t', 1)
  | '\\' :: _ => some ('\\', 1)
  | '"' :: _ => some ('"', 1)
  | 'u' :: rest => do return (← Text.leadingCodePoint? 4 rest, 5)
  | 'U' :: rest => do return (← Text.leadingCodePoint? 8 rest, 9)
  | _ => none

/-- The rest of a string in double quotes. The next `skipped` characters are read already. -/
def basicFrom : Text → (skipped : Nat) → (reversed : Text) → Option (Text × Text)
  | [], _, _ => none
  | _ :: rest, n + 1, reversed => basicFrom rest n reversed
  | c :: rest, 0, reversed =>
    if c = '"' then some (reversed.reverse, rest)
    else if c = '\\' then
      match escape? rest with
      | some (d, n) => basicFrom rest n (d :: reversed)
      | none => none
    else if isWritable c then basicFrom rest 0 (c :: reversed)
    else none

/-- The rest of a string in single quotes. -/
def literal? (t : Text) : Option (Text × Text) :=
  match t.dropWhile (fun c => isWritable c && c != '\'') with
  | '\'' :: rest => some (t.takeWhile (fun c => isWritable c && c != '\''), rest)
  | _ => none

/-- The text behind blanks and ends of lines. -/
def skipBlankLines : Text → Text
  | [] => []
  | '\n' :: rest => skipBlankLines rest
  | '\r' :: '\n' :: rest => skipBlankLines rest
  | c :: rest => if isSpace c then skipBlankLines rest else c :: rest

/-- How many characters a backslash at the end of a line joins to what follows: the blanks, the end
of the line and all blank lines behind it. -/
def continuation? (t : Text) : Option Nat := do
  let behind ← newline? (skipSpaces t)
  return t.length - (skipBlankLines behind).length

/-- How many of the quotes a text begins with are in front of the closing three: two at most, as
more than five never stand together. -/
def quotesBeforeClosing? (quote : Char) (t : Text) : Option Nat :=
  let quotes := (t.takeWhile (· == quote)).length
  if quotes < 3 then none else some (min quotes 5 - 3)

/-- The rest of a string in three quotes, of which the double ones have escapes. -/
def multilineFrom (quote : Char) :
    Text → (skipped : Nat) → (reversed : Text) → Option (Text × Text)
  | [], _, _ => none
  | _ :: rest, n + 1, reversed => multilineFrom quote rest n reversed
  | c :: rest, 0, reversed =>
    if c = quote then
      match quotesBeforeClosing? quote (c :: rest) with
      | some n => some (reversed.reverse ++ List.replicate n quote, rest.drop (n + 2))
      | none => multilineFrom quote rest 0 (c :: reversed)
    else if c = '\\' && quote == '"' then
      match continuation? rest with
      | some n => multilineFrom quote rest n reversed
      | none =>
        match escape? rest with
        | some (d, n) => multilineFrom quote rest n (d :: reversed)
        | none => none
    else if c = '\n' then multilineFrom quote rest 0 ('\n' :: reversed)
    else if c = '\r' && ['\n'].isPrefixOf rest then multilineFrom quote rest 1 ('\n' :: reversed)
    else if isWritable c then multilineFrom quote rest 0 (c :: reversed)
    else none

/-- A string in three quotes behind the opening ones. An end of line right behind them does not
count. -/
def multiline? (quote : Char) (t : Text) : Option (Text × Text) :=
  multilineFrom quote ((newline? t).getD t) 0 []

def string? : Text → Option (Text × Text)
  | '"' :: '"' :: '"' :: rest => multiline? '"' rest
  | '\'' :: '\'' :: '\'' :: rest => multiline? '\'' rest
  | '"' :: rest => basicFrom rest 0 []
  | '\'' :: rest => literal? rest
  | _ => none

/-! ## Keys -/

def isBare (c : Char) : Bool := c.isAlphanum || c == '-' || c == '_'

def keyStep? (t : Text) : Option (String × Text) :=
  match t with
  | '"' :: rest => (basicFrom rest 0 []).map fun (k, rest) => (String.ofList k, rest)
  | '\'' :: rest => (literal? rest).map fun (k, rest) => (String.ofList k, rest)
  | _ =>
    let k := t.takeWhile isBare
    if k.isEmpty then none else some (String.ofList k, t.dropWhile isBare)

/-- A key of at most `limit` steps, and the blanks behind it. -/
def key? : (limit : Nat) → Text → Option (List String × Text)
  | 0, _ => none
  | limit + 1, t => do
    let (step, rest) ← keyStep? (skipSpaces t)
    match skipSpaces rest with
    | '.' :: rest => do
      let (steps, rest) ← key? limit rest
      return (step :: steps, rest)
    | rest => return ([step], rest)

end CodeFolding.Toml
