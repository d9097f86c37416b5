import CodeFolding.Regex.Escape
/-!
# Classes of characters in regular expressions

A class lists characters, ranges and sets in brackets, other classes among them. Operators combine
what stands on their two sides, from left to right. A class has a depth: how far brackets, operators
and lists of several items are nested in it.
-/
namespace CodeFolding.Regex

/-- A set with the depth of what has written it. -/
structure DeepSet where
  members : CharSet
  depth : Nat := 0

/-! ## Items -/

def namedClass? (name : String) : Option CharSet :=
  match name with
  | "alnum" => some (.ofRanges [(0x30, 0x39), (0x41, 0x5A), (0x61, 0x7A)])
  | "alpha" => some (.ofRanges [(0x41, 0x5A), (0x61, 0x7A)])
  | "ascii" => some (.range 0 0x7F)
  | "blank" => some (.ofRanges [(0x09, 0x09), (0x20, 0x20)])
  | "cntrl" => some (.ofRanges [(0, 0x1F), (0x7F, 0x7F)])
  | "digit" => some (.range 0x30 0x39)
  | "graph" => some (.range 0x21 0x7E)
  | "lower" => some (.range 0x61 0x7A)
  | "print" => some (.range 0x20 0x7E)
  | "punct" => some (.ofRanges [(0x21, 0x2F), (0x3A, 0x40), (0x5B, 0x60), (0x7B, 0x7E)])
  | "space" => some (.ofRanges [(0x09, 0x0D), (0x20, 0x20)])
  | "upper" => some (.range 0x41 0x5A)
  | "word" => some asciiWord
  | "xdigit" => some (.ofRanges [(0x30, 0x39), (0x41, 0x46), (0x61, 0x66)])
  | _ => none

/-- A name between colons behind an opening bracket, with whether all other characters are meant. -/
def className? (t : Text) : Option (Bool × CharSet × Text) := do
  let (negated, t) ← match t with
    | ':' :: '^' :: rest => some (true, rest)
    | ':' :: rest => some (false, rest)
    | _ => none
  let (name, rest) ← cutAt? [':'] t
  match rest with
  | ']' :: rest => return (negated, ← namedClass? (String.ofList name), rest)
  | _ => none

/-- A character or an escape in a class. -/
def classItem? (f : Flags) : Text → Option (Escape × Text)
  | '\\' :: rest => escape? f rest
  | c :: rest => some (.char c, rest)
  | [] => none

/-- A set of the characters between two. Code points of halves of surrogate pairs are no
characters. -/
def charsBetween (low high : Char) : CharSet := .range low.toNat high.toNat ∩ .all

/-- Whether a dash in front of a text stands between the two ends of a range. A dash does not if a
dash or a closing bracket follows. -/
def beginsRange (f : Flags) : Text → Bool
  | '-' :: rest =>
    let next := if f.verbose then
        match rest.dropWhile isBlank with
        | '#' :: comment => (comment.dropWhile isBlank).head?
        | rest => rest.head?
      else rest.head?
    next != some ']' && next != some '-'
  | _ => false

/-- An item of a class or a range from one item to the next. -/
def classRange? (f : Flags) (t : Text) : Option (CharSet × Text) := do
  let (item, rest) ← classItem? f t
  let rest := f.skip rest
  if rest.isEmpty then none
  if beginsRange f rest then
    let (last, rest) ← classItem? f (f.skip (rest.drop 1))
    let low ← item.char? f
    let high ← last.char? f
    if high < low then none
    return (← f.allow? (charsBetween low high), rest)
  else
    match item with
    | .set s => return (s, rest)
    | _ => return (← f.allow? (.single (← item.char? f)), rest)

/-! ## Operators -/

/-- How the sets of a class are combined. -/
inductive SetOperator where
  | intersection
  | difference
  | symmetricDifference
deriving DecidableEq, Repr

def SetOperator.apply (o : SetOperator) (s t : CharSet) : CharSet :=
  match o with
  | intersection => s ∩ t
  | difference => s \ t
  | symmetricDifference => s.symmDiff t

/-- A class whose reading has begun: the items since its last operator, and the set in front of the
operator. -/
structure OpenClass where
  negated : Bool
  items : CharSet := ∅
  /-- How many items there are. -/
  count : Nat := 0
  /-- The depth of the deepest item. -/
  depth : Nat := 0
  left : Option (SetOperator × DeepSet) := none

namespace OpenClass

def add (k : OpenClass) (s : DeepSet) : OpenClass :=
  { k with
    items := k.items ∪ s.members
    count := k.count + 1
    depth := max k.depth s.depth }

/-- The set of the running items. -/
def operand (k : OpenClass) : DeepSet :=
  ⟨k.items, if k.count < 2 then k.depth else k.depth + 1⟩

/-- The set read so far. Both sides of an operator are closed under case first. -/
def joined (f : Flags) (k : OpenClass) : DeepSet :=
  match k.left with
  | some (o, left) =>
    ⟨o.apply (f.fold left.members) (f.fold k.items), max left.depth k.operand.depth + 1⟩
  | none => k.operand

/-- The set of a class that is finished. -/
def closed? (f : Flags) (k : OpenClass) : Option DeepSet := do
  let s := k.joined f
  let members := f.fold s.members
  return ⟨← f.allow? (if k.negated then members.compl else members), s.depth + 1⟩

def operate (f : Flags) (k : OpenClass) (o : SetOperator) : OpenClass :=
  { negated := k.negated, left := some (o, k.joined f) }

/-- Begins a class behind its bracket. Dashes, or else a closing bracket, in front are items. -/
def start (f : Flags) (t : Text) : OpenClass × Text :=
  let (negated, t) := match f.skip t with
    | '^' :: rest => (true, f.skip rest)
    | t => (false, t)
  let k : OpenClass := { negated }
  match f.takeWhile (· == '-') t with
  | ([], ']' :: rest) => (k.add ⟨.single ']', 0⟩, f.skip rest)
  | (dashes, rest) => (dashes.foldl (fun k c => k.add ⟨.single c, 0⟩) k, rest)

end OpenClass

/-! ## Classes -/

/-- The rest of a class with the classes it stands in, innermost first. Each turn takes a character
at least. -/
def classFrom (f : Flags) :
    (fuel : Nat) → Text → OpenClass → List OpenClass → Option (DeepSet × Text)
  | 0, _, _, _ => none
  | fuel + 1, t, k, outer =>
    match f.skip t with
    | [] => none
    | '[' :: rest =>
      match className? rest with
      | some (negated, s, rest) => do
        let s := f.fold s
        let s ← f.allow? (if negated then s.compl else s)
        classFrom f fuel rest (k.add ⟨s, 0⟩) outer
      | none =>
        let (inner, rest) := OpenClass.start f rest
        classFrom f fuel rest inner (k :: outer)
    | ']' :: rest => do
      let s ← k.closed? f
      match outer with
      | [] => return (s, rest)
      | o :: outer => classFrom f fuel rest (o.add s) outer
    | '&' :: '&' :: rest => classFrom f fuel rest (k.operate f .intersection) outer
    | '-' :: '-' :: rest => classFrom f fuel rest (k.operate f .difference) outer
    | '~' :: '~' :: rest => classFrom f fuel rest (k.operate f .symmetricDifference) outer
    | t => do
      let (s, rest) ← classRange? f t
      classFrom f fuel rest (k.add ⟨s, 0⟩) outer

/-- A class behind its opening bracket. -/
def class? (f : Flags) (t : Text) : Option (DeepSet × Text) :=
  let (k, rest) := OpenClass.start f t
  classFrom f (rest.length + 1) rest k []

end CodeFolding.Regex
