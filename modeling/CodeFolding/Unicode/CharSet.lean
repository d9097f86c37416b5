import CodeFolding.Text.Basic
/-!
# Sets of characters

A set is the ascending list of the code points at which membership changes: the first one begins a
range of members, the second one ends it, and so on. So the empty list is the empty set, and every
set has one list only. Sets are combined change by change, which keeps the changes in order
(`pairwise_combineChanges`).
-/
namespace CodeFolding

namespace CharSet

/-! ## Changes of membership -/

/-- Whether a code point is inside, where `inside` says it of what lies below the first change. -/
def insideAt (inside : Bool) : List Nat → Nat → Bool
  | [], _ => inside
  | x :: xs, n => if n < x then inside else insideAt (!inside) xs n

/-- Puts a point in front of the changes behind it, if there is a change at it. -/
def mark (before behind : Bool) (x : Nat) (changes : List Nat) : List Nat :=
  if before == behind then changes else x :: changes

/-- The changes of two sets combined. Below the first changes, the sets hold `a` and `b`. -/
def combineChanges (op : Bool → Bool → Bool) (a b : Bool) : List Nat → List Nat → List Nat
  | [], [] => []
  | x :: xs, [] => mark (op a b) (op (!a) b) x (combineChanges op (!a) b xs [])
  | [], y :: ys => mark (op a b) (op a (!b)) y (combineChanges op a (!b) [] ys)
  | x :: xs, y :: ys =>
    if x < y then mark (op a b) (op (!a) b) x (combineChanges op (!a) b xs (y :: ys))
    else if y < x then mark (op a b) (op a (!b)) y (combineChanges op a (!b) (x :: xs) ys)
    else mark (op a b) (op (!a) (!b)) x (combineChanges op (!a) (!b) xs ys)
termination_by xs ys => xs.length + ys.length

theorem mem_mark {before behind : Bool} {x m : Nat} {changes : List Nat}
    (h : m ∈ mark before behind x changes) : m = x ∨ m ∈ changes := by
  unfold mark at h
  split at h
  · exact .inr h
  · exact List.mem_cons.1 h

theorem mem_combineChanges {op : Bool → Bool → Bool} {a b : Bool} {xs ys : List Nat} {m : Nat}
    (h : m ∈ combineChanges op a b xs ys) : m ∈ xs ∨ m ∈ ys := by
  fun_induction combineChanges op a b xs ys <;> grind [→ mem_mark]

theorem forall_lt_combineChanges {op : Bool → Bool → Bool} {a b : Bool} {xs ys : List Nat} {z : Nat}
    (hx : ∀ m ∈ xs, z < m) (hy : ∀ m ∈ ys, z < m) :
    ∀ m ∈ combineChanges op a b xs ys, z < m :=
  fun m hm => (mem_combineChanges hm).elim (hx m) (hy m)

theorem forall_lt_cons {z y : Nat} {ys : List Nat} (h : z < y) (hy : (y :: ys).Pairwise (· < ·)) :
    ∀ m ∈ y :: ys, z < m := by
  intro m hm
  rcases List.mem_cons.1 hm with rfl | hm
  · exact h
  · exact Nat.lt_trans h ((List.pairwise_cons.1 hy).1 m hm)

theorem forall_lt_nil {z : Nat} : ∀ m ∈ ([] : List Nat), z < m := nofun

theorem pairwise_mark {before behind : Bool} {x : Nat} {changes : List Nat}
    (hx : ∀ m ∈ changes, x < m) (h : changes.Pairwise (· < ·)) :
    (mark before behind x changes).Pairwise (· < ·) := by
  unfold mark
  split
  · exact h
  · exact List.pairwise_cons.2 ⟨hx, h⟩

theorem pairwise_combineChanges (op : Bool → Bool → Bool) (a b : Bool) {xs ys : List Nat}
    (hx : xs.Pairwise (· < ·)) (hy : ys.Pairwise (· < ·)) :
    (combineChanges op a b xs ys).Pairwise (· < ·) := by
  fun_induction combineChanges op a b xs ys with
  | case1 => exact .nil
  | case2 a b x xs ih =>
    obtain ⟨hlt, hx⟩ := List.pairwise_cons.1 hx
    exact pairwise_mark (forall_lt_combineChanges hlt forall_lt_nil) (ih hx hy)
  | case3 a b y ys ih =>
    obtain ⟨hlt, hy⟩ := List.pairwise_cons.1 hy
    exact pairwise_mark (forall_lt_combineChanges forall_lt_nil hlt) (ih hx hy)
  | case4 a b x xs y ys h ih =>
    obtain ⟨hlt, hx⟩ := List.pairwise_cons.1 hx
    exact pairwise_mark (forall_lt_combineChanges hlt (forall_lt_cons h hy)) (ih hx hy)
  | case5 a b x xs y ys _ h ih =>
    obtain ⟨hlt, hy⟩ := List.pairwise_cons.1 hy
    exact pairwise_mark (forall_lt_combineChanges (forall_lt_cons h hx) hlt) (ih hx hy)
  | case6 a b x xs y ys h₁ h₂ ih =>
    obtain rfl : x = y := by omega
    obtain ⟨hltx, hx⟩ := List.pairwise_cons.1 hx
    obtain ⟨hlty, hy⟩ := List.pairwise_cons.1 hy
    exact pairwise_mark (forall_lt_combineChanges hltx hlty) (ih hx hy)

end CharSet

/-! ## Sets -/

/-- A set of characters. -/
structure CharSet where
  /-- The code points at which membership changes. -/
  changes : List Nat
  ascending : changes.Pairwise (· < ·)
deriving DecidableEq

namespace CharSet

def contains (s : CharSet) (c : Char) : Bool := insideAt false s.changes c.toNat

def empty : CharSet := ⟨[], .nil⟩

instance : EmptyCollection CharSet := ⟨empty⟩

instance : Inhabited CharSet := ⟨empty⟩

/-- Every character. Code points of halves of surrogate pairs are no characters. -/
def all : CharSet := ⟨[0, 0xD800, 0xE000, 0x110000], by decide⟩

/-- The code points from `low` to `high`. -/
def range (low high : Nat) : CharSet :=
  if h : low ≤ high then
    ⟨[low, high + 1], List.pairwise_pair.2 (Nat.lt_succ_of_le h)⟩
  else ∅

def single (c : Char) : CharSet := range c.toNat c.toNat

/-- Combines two sets member by member. What is in neither of them stays outside. -/
def combine (op : Bool → Bool → Bool) (s t : CharSet) : CharSet :=
  ⟨combineChanges op false false s.changes t.changes,
    pairwise_combineChanges op false false s.ascending t.ascending⟩

instance : Union CharSet := ⟨combine (· || ·)⟩

instance : Inter CharSet := ⟨combine (· && ·)⟩

instance : SDiff CharSet := ⟨combine fun a b => a && !b⟩

/-- What is in one of two sets, and not in both. -/
def symmDiff (s t : CharSet) : CharSet := combine (· != ·) s t

def compl (s : CharSet) : CharSet := all \ s

/-! ## Ranges -/

/-- Adds a range. It costs little if the range lies below the set. -/
def insertRange (s : CharSet) (low high : Nat) : CharSet :=
  if h : low ≤ high then
    match hs : s.changes with
    | [] => range low high
    | x :: xs =>
      have hs := hs ▸ s.ascending
      if hx : high + 1 < x then
        ⟨low :: (high + 1) :: x :: xs,
          have behind := List.Pairwise.cons (forall_lt_cons hx hs) hs
          .cons (forall_lt_cons (Nat.lt_succ_of_le h) behind) behind⟩
      else if hx : high + 1 = x then
        ⟨low :: xs, .cons (fun m hm => by
          have := (List.pairwise_cons.1 hs).1 m hm
          omega) (List.pairwise_cons.1 hs).2⟩
      else range low high ∪ s
  else s

/-- First and last code points of the ranges between changes, taken by pairs. -/
def rangesBetween : List Nat → List (Nat × Nat)
  | low :: behind :: rest => (low, behind - 1) :: rangesBetween rest
  | _ => []

/-- First and last code points of the ranges of a set, from the lowest to the highest. -/
def ranges (s : CharSet) : List (Nat × Nat) := rangesBetween s.changes

/-- The members of some ranges. -/
def ofRanges (rs : List (Nat × Nat)) : CharSet := rs.foldr (fun r s => s.insertRange r.1 r.2) ∅

def single? (s : CharSet) : Option Char :=
  match s.ranges with
  | [(low, high)] => if low = high then some (Char.ofNat low) else none
  | _ => none

/-- Whether no member lies beyond ASCII. -/
def isAscii (s : CharSet) : Bool := s.ranges.all fun r => r.2 < 128

def isEmpty (s : CharSet) : Bool := s.changes.isEmpty

/-! ## Tables

A table names code points in hexadecimal: a single one, a range from one to another (`41-5A`), or
every second one from one to another (`100+136`), as letters of two cases often alternate. The
tables of this folder are those of version 16.0 of the Unicode standard. -/

/-- The ranges that an entry of a table names. -/
def entryRanges (entry : Text) : List (Nat × Nat) :=
  let first := Text.ofDigits 16 (entry.takeWhile Char.isAlphanum)
  match entry.dropWhile Char.isAlphanum with
  | '-' :: last => [(first, Text.ofDigits 16 last)]
  | '+' :: last =>
    (List.range' first ((Text.ofDigits 16 last - first) / 2 + 1) 2).map fun n => (n, n)
  | _ => [(first, first)]

/-- The characters that a table names, line by line. -/
def ofTable (lines : List String) : CharSet :=
  ofRanges (lines.flatMap fun line =>
    (line.splitOn " ").flatMap fun entry => entryRanges entry.toList)

end CharSet

/-- A set of characters with the names it goes by: in lower case, without blanks, dashes and
underscores. -/
structure NamedSet where
  names : List String
  members : CharSet

def NamedSet.find? (sets : List NamedSet) (name : String) : Option CharSet :=
  (sets.find? (·.names.contains name)).map NamedSet.members

end CodeFolding
