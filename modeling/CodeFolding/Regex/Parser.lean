import CodeFolding.Regex.Automaton
import CodeFolding.Regex.CharClass
import CodeFolding.Text.Word
/-!
# Reading regular expressions

An expression is read from left to right. Groups that are open wait with what stands in front of
them. An expression must be well formed, not too deep and not too large.
-/
namespace CodeFolding.Regex

/-- An item of a sequence with its depth: how far groups, classes, repetitions, sequences and
alternatives are nested in it. Flags are items that match nothing of their own. -/
structure Item where
  regex : Option Regex
  depth : Nat := 0

/-- A group whose reading has begun. -/
structure OpenGroup where
  flags : Flags
  /-- Whether the group can be told apart in a match. -/
  capturing : Bool := false
  /-- The alternatives in front of the running one, the last one first. -/
  alternatives : List Regex := []
  /-- The depth of the deepest of them. -/
  depth : Nat := 0
  /-- The items of the running alternative, the last one first. -/
  items : List Item := []

namespace OpenGroup

def add (g : OpenGroup) (r : Regex) (depth : Nat) : OpenGroup :=
  { g with items := ⟨some r, depth⟩ :: g.items }

/-- Sets flags for the rest of the group. -/
def set (g : OpenGroup) (f : Flags) : OpenGroup :=
  { g with flags := f, items := ⟨none, 0⟩ :: g.items }

def running (g : OpenGroup) : Regex :=
  (g.items.filterMap Item.regex).foldl (fun s r => r.andThen s) nothing

def runningDepth (g : OpenGroup) : Nat :=
  let deepest := (g.items.map Item.depth).foldl max 0
  if g.items.length < 2 then deepest else deepest + 1

def closed (g : OpenGroup) : Regex :=
  if g.alternatives.isEmpty then g.running
  else ofAlternatives (g.running :: g.alternatives).reverse

def closedDepth (g : OpenGroup) : Nat :=
  if g.alternatives.isEmpty then g.runningDepth else max g.depth g.runningDepth + 1

def nextAlternative (g : OpenGroup) : OpenGroup :=
  { g with
    alternatives := g.running :: g.alternatives
    depth := max g.depth g.runningDepth
    items := [] }

def repeatLast (g : OpenGroup) (least : Nat) (most : Option Nat) : Option OpenGroup :=
  match g.items with
  | ⟨some r, depth⟩ :: items =>
    some { g with items := ⟨some (repeated least most r), depth + 1⟩ :: items }
  | _ => none

def addGroup (outer inner : OpenGroup) : OpenGroup :=
  outer.add (if inner.capturing then group inner.closed else inner.closed) (inner.closedDepth + 1)

end OpenGroup

/-! ## Repetition -/

/-- The text behind a question mark that asks for few turns. It changes where matches end, not
whether there are any. -/
def skipLazy : Text → Text
  | '?' :: rest => rest
  | t => t

/-- A decimal number below the bound of counts, with blanks around it. -/
def count? (f : Flags) (t : Text) : Option (Nat × Text) :=
  let (digits, rest) := f.takeWhile Char.isDigit (Text.trimStart t)
  let n := Text.ofDigits 10 digits
  if digits.isEmpty || 0x100000000 ≤ n then none else some (n, (f.takeWhile isBlank rest).2)

/-- The counts behind an opening brace: the least number of turns and the greatest, if any. -/
def counts? (f : Flags) (t : Text) : Option ((Nat × Option Nat) × Text) := do
  let (least, rest) ← count? f (f.skip t)
  match rest with
  | '}' :: rest => return ((least, some least), f.skip rest)
  | ',' :: rest =>
    match f.skip rest with
    | '}' :: rest => return ((least, none), f.skip rest)
    | rest => do
      let (most, rest) ← count? f rest
      match rest with
      | '}' :: rest => if least ≤ most then return ((least, some most), f.skip rest) else none
      | _ => none
  | _ => none

/-! ## Groups -/

/-- Sets or clears the flag with a given letter. Whether few or many turns are asked for does not
change whether there is a match. -/
def Flags.set? (f : Flags) (value : Bool) : Char → Option Flags
  | 'i' => some { f with ignoreCase := value }
  | 'm' => some { f with multiLine := value }
  | 's' => some { f with dotAll := value }
  | 'R' => some { f with returns := value }
  | 'u' => some { f with ascii := !value }
  | 'x' => some { f with verbose := value }
  | 'U' => some f
  | _ => none

/-- Reads the letters of flags, of which none stands twice, up to a colon or a parenthesis. Gives
the flags and the text from there. -/
def flagsFrom (f : Flags) (value : Bool) (seen : Text) : Text → Option (Flags × Text)
  | [] => none
  | c :: rest =>
    if c = ':' || c = ')' then
      if seen.head? == some '-' then none else some (f, c :: rest)
    else if seen.contains c then none
    else if c = '-' then flagsFrom f false (c :: seen) rest
    else do flagsFrom (← f.set? value c) value (c :: seen) rest

/-- What an opening parenthesis begins. -/
inductive Opening where
  /-- A group that can be told apart, and may have a name. -/
  | capture (name : Option Text)
  /-- A group with flags of its own. -/
  | group (flags : Flags)
  /-- Flags for the rest of the group around. -/
  | flags (flags : Flags)

def groupName? (t : Text) : Option (Text × Text) :=
  let isInner := fun c =>
    c == '_' || isAlphanumeric c || c == '.' || c == '[' || c == ']'
  match t, t.dropWhile isInner with
  | c :: _, '>' :: rest =>
    if c == '_' || isLetter c then some (t.takeWhile isInner, rest) else none
  | _, _ => none

/-- What the text behind an opening parenthesis begins, and the text behind that. What looks ahead
or behind is not known. -/
def opening? (f : Flags) (t : Text) : Option (Opening × Text) :=
  match f.skip t with
  | '?' :: 'P' :: '<' :: rest => (groupName? rest).map fun (name, rest) => (.capture name, rest)
  | '?' :: '<' :: rest => (groupName? rest).map fun (name, rest) => (.capture name, rest)
  | '?' :: ')' :: _ => none
  | '?' :: rest => do
    match ← flagsFrom f true [] rest with
    | (f, ':' :: rest) => return (.group f, rest)
    | (f, rest) => return (.flags f, rest.drop 1)
  | t => some (.capture none, t)

/-! ## Expressions -/

/-- The characters that a dot stands for. -/
def Flags.dot? (f : Flags) : Option CharSet :=
  if f.ascii then none
  else if f.dotAll then some .all
  else if f.returns then some (CharSet.single '\n' ∪ .single '\r').compl
  else some (CharSet.single '\n').compl

/-- The expression that a single character writes. -/
def primitive? (f : Flags) (c : Char) : Option Regex :=
  match c with
  | '.' => f.dot?.map chars
  | '^' => some (anchor (if f.multiLine then .lineStart f.returns else .textStart))
  | '$' => some (anchor (if f.multiLine then .lineEnd f.returns else .textEnd))
  | _ => some (chars (f.fold (.single c)))

def ofEscape? (f : Flags) : Escape → Option Regex
  | .set s => some (chars s)
  | .anchor a => some (anchor a)
  | e => do return chars (f.fold (.single (← e.char? f)))

/-- Reads the rest of an expression, in a group with the groups around it and the names that are
taken. Gives the expression with its depth. Each turn takes a character at least. -/
def readFrom :
    (fuel : Nat) → Text → OpenGroup → List OpenGroup → List Text → Option (Regex × Nat)
  | 0, _, _, _, _ => none
  | fuel + 1, t, g, outer, names =>
    let f := g.flags
    match f.skip t with
    | [] => if outer.isEmpty then some (g.closed, g.closedDepth) else none
    | c :: rest =>
      match c with
      | '(' => do
        match ← opening? f rest with
        | (.flags f, rest) => readFrom fuel rest (g.set f) outer names
        | (.group f, rest) => readFrom fuel rest { flags := f } (g :: outer) names
        | (.capture name, rest) =>
          if name.any names.contains then none
          else
            let inner : OpenGroup := { flags := f, capturing := true }
            readFrom fuel rest inner (g :: outer) (name.toList ++ names)
      | ')' =>
        match outer with
        | o :: outer => readFrom fuel rest (o.addGroup g) outer names
        | [] => none
      | '|' => readFrom fuel rest g.nextAlternative outer names
      | '*' => do readFrom fuel (skipLazy rest) (← g.repeatLast 0 none) outer names
      | '+' => do readFrom fuel (skipLazy rest) (← g.repeatLast 1 none) outer names
      | '?' => do readFrom fuel (skipLazy rest) (← g.repeatLast 0 (some 1)) outer names
      | '{' => do
        let ((least, most), rest) ← counts? f rest
        readFrom fuel (skipLazy rest) (← g.repeatLast least most) outer names
      | '[' => do
        let (s, rest) ← class? f rest
        readFrom fuel rest (g.add (chars s.members) s.depth) outer names
      | '\\' => do
        let (e, rest) ← escape? f rest
        readFrom fuel rest (g.add (← ofEscape? f e) 0) outer names
      | _ => do readFrom fuel rest (g.add (← primitive? f c) 0) outer names

/-- The deepest that expressions may be nested. -/
def maxDepth : Nat := 250

/-- The expression that a text writes, if it is well formed, and neither too deep nor too large. -/
def parse (t : Text) : Option Regex := do
  let (r, depth) ← readFrom (t.length + 1) t { flags := {} } [] []
  if depth ≤ maxDepth && r.isSmall then return r else none

end CodeFolding.Regex
