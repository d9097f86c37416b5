import CodeFolding.Regex.Simplify
import Std.Data.HashMap
/-!
# Sizes of expressions

An expression is accepted only if the automata that read the bytes it matches, forwards and
backwards, do not grow too large. Only the sizes of the automata are computed here: what counts is
how many states there are and how many ways lead out of them.
-/
namespace CodeFolding

/-! ## Ranges of UTF-8 forms

The UTF-8 forms of the characters of a range are not in general all the sequences of bytes between
two bounds. A range is cut into pieces of which that is true. -/

/-- The bytes of the UTF-8 form of a code point. -/
def utf8Bytes (n : Nat) : List Nat :=
  if n < 0x80 then [n]
  else if n < 0x800 then [0xC0 + n / 0x40, 0x80 + n % 0x40]
  else if n < 0x10000 then [0xE0 + n / 0x1000, 0x80 + n / 0x40 % 0x40, 0x80 + n % 0x40]
  else
    [0xF0 + n / 0x40000, 0x80 + n / 0x1000 % 0x40, 0x80 + n / 0x40 % 0x40, 0x80 + n % 0x40]

/-- The last code point of the first piece, if a range has to be cut: behind the last form of some
length, or where bytes in front change while those behind them do not take all values. -/
def cut? (low high : Nat) : Option Nat :=
  let byLength := [0x7F, 0x7FF, 0xFFFF].find? fun m => low ≤ m && m < high
  byLength <|> if high < 0x80 then none else [0x40, 0x1000, 0x40000].findSome? fun k =>
    if low / k = high / k then none
    else if low % k ≠ 0 then some (low / k * k + k - 1)
    else if high % k ≠ k - 1 then some (high / k * k - 1)
    else none

/-- The pieces of a range, from the lowest to the highest. -/
def utf8Pieces (low high : Nat) : List (Nat × Nat) :=
  match cut? low high with
  | some m =>
    if _h : low ≤ m ∧ m < high then utf8Pieces low m ++ utf8Pieces (m + 1) high
    else [(low, high)]
  | none => [(low, high)]
termination_by high - low

/-- The bounds of the bytes of each piece of a set. -/
def CharSet.utf8Ranges (s : CharSet) : List (List (Nat × Nat)) :=
  s.ranges.flatMap fun r =>
    (utf8Pieces r.1 r.2).map fun p => (utf8Bytes p.1).zip (utf8Bytes p.2)

/-! ## Automata in the making -/

/-- What is known of an automaton that is being made: the number of its states and the bytes that
the ways out of them take. -/
structure Automaton where
  states : Nat := 0
  ways : Nat := 0

namespace Automaton

/-- Bytes that an automaton takes. -/
def size (a : Automaton) : Nat := 32 * a.states + a.ways

def maxSize : Nat := 10 * 1024 * 1024

/-- The automaton, unless it is too large. -/
def checked? (a : Automaton) : Option Automaton := if maxSize < a.size then none else some a

inductive Direction where
  | forwards
  | backwards
deriving DecidableEq, Repr

/-- A step in the making of an automaton, which ends when it grows too large. -/
abbrev Making := StateT Automaton Option

/-- A part of an automaton: its first state, its last state, and whether the last one is a fork, so
that each way that is added to it takes room. -/
structure Part where
  first : Nat
  last : Nat
  forked : Bool := false

def state (ways : Nat) : Making Nat := fun a => do
  let grown ← checked? { states := a.states + 1, ways := a.ways + ways }
  return (a.states, grown)

/-- Adds a way out of a fork. -/
def way : Making Unit := fun a => do
  let grown ← checked? { a with ways := a.ways + 4 }
  return ((), grown)

/-- Leads on from the last state of a part. -/
def Part.leadOn (p : Part) : Making Unit := if p.forked then way else pure ()

def point : Making Part := do
  let n ← state 0
  return ⟨n, n, false⟩

/-! ## Characters -/

/-- Some states with what they were made for, each in a place that follows from it. A newer state
takes the place of an older one. -/
structure Shared where
  places : Nat
  made : Std.HashMap Nat (List Nat × Nat) := ∅

/-- The place of what a state is made for: a hash of it, modulo the number of places. -/
def Shared.place (s : Shared) (key : List Nat) : Nat :=
  let hash := key.foldl (fun h n => (h ^^^ n.toUInt64) * 1099511628211)
    (14695981039346656037 : UInt64)
  hash.toNat % s.places

/-- The state that is in place for something, or else a new one with some bytes of ways. -/
def sharedState (key : List Nat) (ways : Nat) : StateT Shared Making Nat := do
  let s ← get
  let place := s.place key
  match s.made[place]? with
  | some (k, n) => if k == key then return n
  | none => pure ()
  let n ← state ways
  set { s with made := s.made.insert place (key, n) }
  return n

/-- Sequences of ranges of bytes, by their first ranges. -/
def byFirst (qs : List (List (Nat × Nat))) : List (List (List (Nat × Nat))) :=
  qs.splitBy fun p q => p.head? == q.head?

/-- The state from which sequences of ranges lead to a last state. Equal tails share their states.
No sequence has more ranges than `depth`. -/
def tailsFrom (last : Nat) : (depth : Nat) → List (List (Nat × Nat)) → StateT Shared Making Nat
  | 0, _ => return last
  | depth + 1, qs => do
    if qs.all List.isEmpty then return last
    let keys ← (byFirst qs).mapM fun same => do
      let next ← tailsFrom last depth (same.map List.tail)
      return (same.head?.bind List.head?).elim [] fun r => [r.1, r.2, next]
    sharedState keys.flatten (8 * keys.length)

/-- The state from which a sequence of ranges, read from its end, leads to a last state. -/
def headFrom (last : Nat) (q : List (Nat × Nat)) : StateT Shared Making Nat :=
  q.foldlM (fun n r => sharedState [n, r.1, r.2] 0) last

/-- The part for a character of a set that has not one member only. -/
def anyOf (d : Direction) (members : CharSet) : Making Part := do
  if members.isAscii then
    let last ← state 0
    let first ← state (8 * members.ranges.length)
    return ⟨first, last, false⟩
  else match d with
    | .forwards => do
      let last ← state 0
      let (first, _) ← (tailsFrom last 4 members.utf8Ranges).run { places := 10000 }
      return ⟨first, last, false⟩
    | .backwards => do
      let first ← state 0
      let last ← state 0
      let ways := members.utf8Ranges.forM fun q => do
        let _ ← headFrom last q
        way
      let _ ← ways.run { places := 1000 }
      return ⟨first, last, false⟩

/-- Adds parts behind a part. -/
def inOrder : Part → List (Making Part) → Making Part
  | p, [] => return p
  | p, make :: rest => do
    let q ← make
    p.leadOn
    inOrder ⟨p.first, q.last, q.forked⟩ rest

def oneChar (d : Direction) (members : CharSet) : Making Part :=
  match members.single? with
  | some c => do
    let p ← point
    inOrder p (List.replicate (c.utf8Size - 1) point)
  | none => anyOf d members

/-! ## Repetition -/

/-- Repeats a part behind another one. -/
def repeatBehind (make : Making Part) : (count : Nat) → Part → Making Part
  | 0, p => return p
  | n + 1, p => do
    let q ← make
    p.leadOn
    repeatBehind make n ⟨p.first, q.last, q.forked⟩

def exactly (make : Making Part) : (count : Nat) → Making Part
  | 0 => point
  | n + 1 => do repeatBehind make n (← make)

/-- Parts that may be left out behind a part. All ways round them lead to one state. -/
def optionalBehind (make : Making Part) : (count : Nat) → Part → Making Part
  | 0, p => return p
  | n + 1, p => do
    let _ ← state 0
    let q ← make
    p.leadOn
    way
    way
    optionalBehind make n ⟨p.first, q.last, q.forked⟩

/-- A part between two numbers of times. -/
def atMost (make : Making Part) (least most : Nat) : Making Part := do
  let p ← exactly make least
  let last ← state 0
  let q ← optionalBehind make (most - least) p
  q.leadOn
  return ⟨q.first, last, false⟩

def optional (make : Making Part) : Making Part := do
  let fork ← state 0
  let p ← make
  let last ← state 0
  way
  way
  p.leadOn
  return ⟨fork, last, false⟩

/-- A part at least as often as a number says. If it may take nothing, the way round it is apart
from the way back. -/
def atLeast (make : Making Part) (takesSome : Bool) : (least : Nat) → Making Part
  | 0 =>
    if takesSome then do
      let fork ← state 0
      let p ← make
      way
      p.leadOn
      return ⟨fork, fork, true⟩
    else do
      let p ← make
      let _ ← state 0
      p.leadOn
      way
      let fork ← state 0
      let last ← state 0
      way
      way
      way
      return ⟨fork, last, false⟩
  | 1 => do
    let p ← make
    let fork ← state 0
    p.leadOn
    way
    return ⟨p.first, fork, true⟩
  | least + 2 => do
    let p ← exactly make (least + 1)
    let q ← make
    let fork ← state 0
    p.leadOn
    q.leadOn
    way
    return ⟨p.first, fork, true⟩

/-- A part between two numbers of times, of which the second may be missing. -/
def between (make : Making Part) (takesSome : Bool) (least : Nat) : Option Nat → Making Part
  | none => atLeast make takesSome least
  | some most =>
    if least = 0 && most = 1 then optional make
    else if least = most then exactly make least
    else atMost make least most

/-! ## Words -/

/-- Words cut at the empty ones, of which only one counts in front. -/
def runsOf (words : List (List Nat)) : List (List (List Nat)) :=
  let words := (words.takeWhile List.isEmpty).take 1 ++ words.dropWhile List.isEmpty
  words.foldr (fun word runs =>
    match word, runs with
    | [], runs => [] :: runs
    | word, run :: runs => (word :: run) :: runs
    | word, [] => [[word]]) [[]]

/-- The tails of words by their first bytes, from the least byte to the greatest. -/
def tailsByByte (words : List (List Nat)) : List (List (List Nat)) :=
  let bytes := (words.filterMap List.head?).eraseDups.mergeSort
  bytes.map fun b => words.filterMap fun
    | c :: tail => if c = b then some tail else none
    | [] => none

/-- The state from which words of bytes lead to a last state. Equal beginnings share their states,
but not across the end of a word between them: what is first counts. No word is as long as
`depth`. -/
def wordsFrom (last : Nat) : (depth : Nat) → List (List Nat) → Making Nat
  | 0, _ => return last
  | depth + 1, words => do
    if words.all List.isEmpty then return last
    let runs := runsOf words
    let firsts ← (runs.filter (!·.isEmpty)).mapM fun run => do
      let tails := tailsByByte run
      let _ ← tails.mapM (wordsFrom last depth)
      state (if tails.length = 1 then 0 else 8 * tails.length)
    match firsts, runs with
    | [first], [_] => return first
    | _, _ => state (4 * (firsts.length + runs.length - 1))

def oneWord (d : Direction) (words : List Text) : Making Part := do
  let bytes := words.map fun word => word.flatMap fun c => utf8Bytes c.toNat
  let last ← state 0
  let first ← wordsFrom last ((bytes.map List.length).foldl max 0 + 1) <| match d with
    | .forwards => bytes
    | .backwards => bytes.map List.reverse
  return ⟨first, last, false⟩

/-! ## Expressions -/

def waysThrough : List (Making Part) → Making Unit
  | [] => return
  | make :: rest => do
    let p ← make
    way
    p.leadOn
    waysThrough rest

def anyPart : List (Making Part) → Making Part
  | [] => do
    let last ← state 0
    let first ← state 0
    return ⟨first, last, false⟩
  | [make] => make
  | make₁ :: make₂ :: rest => do
    let p₁ ← make₁
    let p₂ ← make₂
    let fork ← state 0
    let last ← state 0
    way
    p₁.leadOn
    way
    p₂.leadOn
    waysThrough rest
    return ⟨fork, last, false⟩

/-- The part for an expression, by the parts for its alternatives. -/
def wholePart (d : Direction) (r : Regex) (parts : List (Making Part)) : Making Part :=
  match r with
  | .alt _ _ =>
    match r.alternatives.mapM Regex.literal? with
    | some words => oneWord d words
    | none => anyPart parts
  | _ => anyPart parts

/-- The parts for the alternatives of an expression. -/
def alternatives (d : Direction) : Regex → List (Making Part)
  | .nothing | .anchor _ => [point]
  | .chars members => [oneChar d members]
  | .seq r s =>
    let first := wholePart d r (alternatives d r)
    let second := wholePart d s (alternatives d s)
    match d with
    | .forwards => [do inOrder (← first) [second]]
    | .backwards => [do inOrder (← second) [first]]
  | .alt r s => alternatives d r ++ alternatives d s
  | .turns least most r =>
    [between (wholePart d r (alternatives d r)) ((r.leastLength?).any (0 < ·)) least most]
  | .group r =>
    let inner := wholePart d r (alternatives d r)
    match d with
    | .forwards => [do
      let first ← state 0
      let p ← inner
      let last ← state 0
      p.leadOn
      return ⟨first, last, false⟩]
    | .backwards => [inner]

/-- Whether an expression matches only where an anchor holds, in front of all that it takes or, read
backwards, behind it. -/
def anchored (d : Direction) (a : Anchor) : Regex → Bool
  | .anchor b => a = b
  | .nothing | .chars _ => false
  | .seq r s =>
    match d with
    | .forwards => anchored d a r || (r.takesNothing && anchored d a s)
    | .backwards => anchored d a s || (s.takesNothing && anchored d a r)
  | .alt r s => anchored d a r && anchored d a s
  | .turns least _ r => 0 < least && anchored d a r
  | .group r => anchored d a r

/-- The automaton that reads an expression, wherever a match begins. -/
def make (d : Direction) (r : Regex) : Making Unit := do
  let ends := match d with
    | .forwards => .textStart
    | .backwards => .textEnd
  let before ← if anchored d ends r then point else atLeast (anyOf d (.range 0 0x7F)) true 0
  let whole := match d with
    | .forwards => .group r
    | .backwards => r
  let _ ← wholePart d whole (alternatives d whole)
  let _ ← state 0
  before.leadOn

end Automaton

/-- Whether the automata of an expression are small enough. -/
def Regex.isSmall (r : Regex) : Bool :=
  ((Automaton.make .forwards r).run {}).isSome && ((Automaton.make .backwards r).run {}).isSome

end CodeFolding
