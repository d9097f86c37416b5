import CodeFolding.Proofs.Text.Position
import CodeFolding.Proofs.Token.Extent
/-!
# Slices by byte offsets

A scanner that keeps byte offsets takes slices of its text, and a slice can fail: its ends may lie
inside a character, outside the text or in the wrong order. Here a slice that fails says so. Main
statements: a slice is taken just where the text splits (`slice_eq_ok_iff`), and the searches from
an offset stop where the measures in characters do (`findChar?_eq`, `through_append`).
-/
namespace CodeFolding

/-- What can go wrong in a run over the bytes of a text. -/
inductive Fault where
  /-- No slice of the text has these ends. -/
  | slice
  /-- The array has no such index. -/
  | index
  /-- A number would fall below zero. -/
  | underflow
  /-- A loop takes more rounds than there are bytes. -/
  | endless
deriving DecidableEq, Repr

@[simp] theorem Fault.ok_bind {α β : Type} (a : α) (f : α → Except Fault β) :
    (Except.ok a >>= f) = f a := rfl

namespace Text

/-- The text cut in two behind its first `n` bytes. -/
def cut : Text → Nat → Except Fault (Text × Text)
  | t, 0 => .ok ([], t)
  | [], _ + 1 => .error .slice
  | c :: t, n + 1 =>
    if c.utf8Size ≤ n + 1 then do
      let (front, rest) ← cut t (n + 1 - c.utf8Size)
      return (c :: front, rest)
    else .error .slice

/-- The text from an offset on. -/
def sliceFrom (t : Text) (first : Nat) : Except Fault Text := do return (← t.cut first).2

def sliceTo (t : Text) (stop : Nat) : Except Fault Text := do return (← t.cut stop).1

def slice (t : Text) (first stop : Nat) : Except Fault Text := do
  if stop < first then .error .slice
  (← t.sliceFrom first).sliceTo (stop - first)

theorem cut_append (front rest : Text) : cut (front ++ rest) (size front) = .ok (front, rest) := by
  induction front with
  | nil => cases rest <;> rfl
  | cons c front ih =>
    obtain ⟨n, hn⟩ := Nat.exists_eq_add_of_lt c.utf8Size_pos
    have hsize : size (c :: front) = n + size front + 1 := by
      rw [size_cons]
      omega
    rw [hsize, List.cons_append, cut, if_pos (by omega),
      show n + size front + 1 - c.utf8Size = size front by omega, ih]
    rfl

/-- **A text is cut at an offset if it splits there, and nowhere else.** -/
theorem cut_eq_ok_iff {t front rest : Text} {n : Nat} :
    t.cut n = .ok (front, rest) ↔ t = front ++ rest ∧ size front = n := by
  constructor
  · intro h
    induction t generalizing n front with
    | nil =>
      cases n with
      | zero =>
        obtain ⟨rfl, rfl⟩ := Prod.mk.inj (Except.ok.inj h)
        exact ⟨rfl, rfl⟩
      | succ n => cases h
    | cons c t ih =>
      cases n with
      | zero =>
        obtain ⟨rfl, rfl⟩ := Prod.mk.inj (Except.ok.inj h)
        exact ⟨rfl, rfl⟩
      | succ n =>
        rw [cut] at h
        split at h
        · next hle =>
          cases hcut : cut t (n + 1 - c.utf8Size) with
          | error e =>
            rw [hcut] at h
            cases h
          | ok parts =>
            obtain ⟨front', rest'⟩ := parts
            rw [hcut, Fault.ok_bind] at h
            obtain ⟨rfl, rfl⟩ := Prod.mk.inj (Except.ok.inj h)
            obtain ⟨rfl, hsize⟩ := ih hcut
            exact ⟨rfl, by rw [size_cons]; omega⟩
        · cases h
  · rintro ⟨rfl, rfl⟩
    exact cut_append front rest

@[simp] theorem sliceFrom_append (front rest : Text) :
    sliceFrom (front ++ rest) (size front) = .ok rest := by
  rw [sliceFrom, cut_append]
  rfl

@[simp] theorem sliceTo_append (front rest : Text) :
    sliceTo (front ++ rest) (size front) = .ok front := by
  rw [sliceTo, cut_append]
  rfl

/-- **Slices are taken just between offsets at which the text splits.** -/
theorem slice_eq_ok_iff {t part : Text} {first stop : Nat} :
    t.slice first stop = .ok part ↔ t.IsSlice part first stop := by
  constructor
  · intro h
    rw [slice] at h
    split at h
    · cases h
    · next hle =>
      rw [sliceFrom] at h
      cases hfirst : t.cut first with
      | error e =>
        rw [hfirst] at h
        cases h
      | ok parts =>
        obtain ⟨front, behind⟩ := parts
        rw [hfirst] at h
        simp only [pure_bind, Fault.ok_bind, sliceTo] at h
        cases hstop : behind.cut (stop - first) with
        | error e =>
          rw [hstop] at h
          cases h
        | ok parts =>
          obtain ⟨part', rest⟩ := parts
          rw [hstop] at h
          obtain rfl : part' = part := Except.ok.inj h
          obtain ⟨rfl, rfl⟩ := cut_eq_ok_iff.1 hfirst
          obtain ⟨rfl, hsize⟩ := cut_eq_ok_iff.1 hstop
          exact ⟨front, rest, rfl, rfl, by rw [size_append]; omega⟩
  · rintro ⟨front, rest, rfl, rfl, rfl⟩
    rw [slice, if_neg (by rw [size_append]; omega), sliceFrom_append, size_append,
      Nat.add_sub_cancel_left]
    exact sliceTo_append part rest

example : slice "é".toList 0 1 = .error .slice := rfl

theorem slice_append (front part rest : Text) :
    slice (front ++ (part ++ rest)) (size front) (size front + size part) = .ok part :=
  slice_eq_ok_iff.2 ⟨front, rest, rfl, rfl, size_append front part⟩

theorem slice_take (front t : Text) (n : Nat) :
    slice (front ++ t) (size front) (size front + size (t.take n)) = .ok (t.take n) := by
  have hslice := slice_append front (t.take n) (t.drop n)
  rwa [List.take_append_drop] at hslice

/-! ## Searches -/

/-- The offset from which on the text is as `p` says, the first such offset. -/
def findWhere? (p : Text → Bool) : Text → Option Nat
  | [] => if p [] then some 0 else none
  | c :: t => if p (c :: t) then some 0 else (findWhere? p t).map (c.utf8Size + ·)

/-- The offset of the first character with a property. -/
def findChar? (p : Char → Bool) : Text → Option Nat := findWhere? fun t => t.head?.any p

def find? (mark : Text) : Text → Option Nat := findWhere? mark.isPrefixOf

/-- **A search for a character passes over the characters without the property.** -/
theorem findChar?_eq (p : Char → Bool) (t : Text) :
    findChar? p t = if (t.dropWhile (!p ·)).isEmpty then none
      else some (size (t.takeWhile (!p ·))) := by
  induction t with
  | nil => rfl
  | cons c t ih =>
    rw [findChar?] at ih
    rw [findChar?, findWhere?]
    cases hc : p c with
    | true => simp [hc]
    | false =>
      simp only [List.head?_cons, Option.any_some, hc, Bool.false_eq_true, if_false, ih,
        List.dropWhile_cons, List.takeWhile_cons, Bool.not_false, if_true]
      split <;> simp

theorem getD_findChar? (p : Char → Bool) (t : Text) :
    (findChar? p t).getD (size t) = size (t.takeWhile (!p ·)) := by
  rw [findChar?_eq]
  split
  · next h =>
    have hsplit := List.takeWhile_append_dropWhile (p := (!p ·)) (l := t)
    rw [List.isEmpty_iff.1 h, List.append_nil] at hsplit
    rw [hsplit]
    rfl
  · rfl

theorem exists_split_find? (mark t : Text) (n : Nat) :
    ∃ a b, t = a ++ b ∧ lengthThrough mark t n = n + a.length ∧
      ((find? mark t).map (· + size mark)).getD (size t) = size a := by
  induction t generalizing n with
  | nil => cases mark <;> exact ⟨[], [], rfl, rfl, rfl⟩
  | cons c t ih =>
    rw [find?, findWhere?]
    by_cases h : mark <+: c :: t
    · obtain ⟨b, hb⟩ := h
      rw [if_pos (List.isPrefixOf_iff_prefix.2 ⟨b, hb⟩)]
      exact ⟨mark, b, hb.symm, lengthThrough_of_begins ⟨b, hb⟩ n, Nat.zero_add _⟩
    · obtain ⟨a, b, rfl, hlength, hsize⟩ := ih (n + 1)
      rw [if_neg (mt List.isPrefixOf_iff_prefix.1 h)]
      refine ⟨c :: a, b, rfl, ?_, ?_⟩
      · rw [lengthThrough_of_not_begins h, hlength, List.length_cons]
        omega
      · rw [find?] at hsize
        rw [size_cons c a, size_cons c (a ++ b), ← hsize]
        cases findWhere? mark.isPrefixOf (a ++ b) with
        | none => rfl
        | some k => exact Nat.add_assoc ..

/-- The end of the first `mark` behind an offset, or the end of the text. -/
def through (t mark : Text) (first : Nat) : Except Fault Nat := do
  let behind ← t.sliceFrom first
  return ((find? mark behind).map (first + · + size mark)).getD (size t)

/-- **What begins with an opening and runs through a mark ends where its length says.** -/
theorem through_append (front opening rest mark : Text) :
    through (front ++ (opening ++ rest)) mark (size front + size opening) =
      .ok (size front +
        size ((opening ++ rest).take (lengthThrough mark rest opening.length))) := by
  obtain ⟨a, b, rfl, hlength, hsize⟩ := exists_split_find? mark rest opening.length
  have hfrom : sliceFrom (front ++ (opening ++ (a ++ b))) (size front + size opening) =
      .ok (a ++ b) := by
    rw [← List.append_assoc, ← size_append]
    exact sliceFrom_append _ _
  have htake : (opening ++ (a ++ b)).take (opening.length + a.length) = opening ++ a := by
    rw [← List.append_assoc, ← List.length_append, List.take_left]
  rw [through, hfrom, hlength, htake, Fault.ok_bind, size_append opening a, ← hsize]
  cases find? mark (a ++ b) with
  | none => rw [size_append, size_append]; rfl
  | some n =>
    rw [Option.map_some, Option.map_some, Option.getD_some, Option.getD_some, ← Nat.add_assoc,
      ← Nat.add_assoc]
    rfl

/-! ## Offsets of characters -/

/-- The characters with their offsets, the first one at the given offset. -/
def indexedFrom : Nat → Text → List (Char × Nat)
  | _, [] => []
  | n, c :: t => (c, n) :: indexedFrom (n + c.utf8Size) t

def indexed (t : Text) : List (Char × Nat) := indexedFrom 0 t

theorem map_fst_indexedFrom (n : Nat) (t : Text) : (indexedFrom n t).map Prod.fst = t := by
  induction t generalizing n with
  | nil => rfl
  | cons c t ih => rw [indexedFrom, List.map_cons, ih]

theorem snd_indexedFrom {n i : Nat} {t : Text} (h : i < (indexedFrom n t).length) :
    (indexedFrom n t)[i].2 = n + size (t.take i) := by
  induction t generalizing n i with
  | nil => simp [indexedFrom] at h
  | cons c t ih =>
    cases i with
    | zero => rfl
    | succ i =>
      simp only [indexedFrom, List.getElem_cons_succ, List.take_succ_cons, size_cons]
      rw [ih, Nat.add_assoc]

end Text

end CodeFolding
