import CodeFolding.Settings.Merge
import Mathlib.Order.Bounds.Defs
/-!
# What an edit distance counts

An edit inserts, deletes or replaces one item. The least number of edits between two lists follows
from what becomes of their first items (`leastEdits`), and the rows of an edit distance hold these
numbers for reversed fronts of the lists, since a row is read from its first cell on. Main
statement: the edit distance of two lists is the least number of edits that turn the one into the
other (`isLeast_editDistance`).
-/
namespace CodeFolding

variable {α : Type}

/-! ## Edits -/

/-- One item is inserted, deleted or replaced, somewhere in a list. -/
inductive Edit : List α → List α → Prop where
  | insert (front : List α) (y : α) (rest : List α) : Edit (front ++ rest) (front ++ y :: rest)
  | delete (front : List α) (x : α) (rest : List α) : Edit (front ++ x :: rest) (front ++ rest)
  | replace (front : List α) (x y : α) (rest : List α) :
    Edit (front ++ x :: rest) (front ++ y :: rest)

/-- So many edits, one after the other, turn the one list into the other. -/
inductive Edits : Nat → List α → List α → Prop where
  | none (xs : List α) : Edits 0 xs xs
  | more {n : Nat} {xs ys zs : List α} : Edit xs ys → Edits n ys zs → Edits (n + 1) xs zs

theorem Edit.symm {xs ys : List α} (h : Edit xs ys) : Edit ys xs := by
  cases h with
  | insert front y rest => exact .delete front y rest
  | delete front x rest => exact .insert front x rest
  | replace front x y rest => exact .replace front y x rest

theorem Edit.cons {xs ys : List α} (z : α) (h : Edit xs ys) : Edit (z :: xs) (z :: ys) := by
  cases h with
  | insert front y rest => exact .insert (z :: front) y rest
  | delete front x rest => exact .delete (z :: front) x rest
  | replace front x y rest => exact .replace (z :: front) x y rest

theorem Edit.reverse {xs ys : List α} (h : Edit xs ys) : Edit xs.reverse ys.reverse := by
  cases h with
  | insert front y rest => simpa using Edit.insert rest.reverse y front.reverse
  | delete front x rest => simpa using Edit.delete rest.reverse x front.reverse
  | replace front x y rest => simpa using Edit.replace rest.reverse x y front.reverse

namespace Edits

variable {m n : Nat} {xs ys zs : List α}

theorem trans (h : Edits m xs ys) (h' : Edits n ys zs) : Edits (m + n) xs zs := by
  induction h with
  | none => rwa [Nat.zero_add]
  | more hedit _ ih =>
    rw [Nat.succ_add]
    exact .more hedit (ih h')

theorem symm (h : Edits n xs ys) : Edits n ys xs := by
  induction h with
  | none xs => exact .none xs
  | more hedit _ ih => exact ih.trans (.more hedit.symm (.none _))

theorem cons (z : α) (h : Edits n xs ys) : Edits n (z :: xs) (z :: ys) := by
  induction h with
  | none xs => exact .none _
  | more hedit _ ih => exact .more (hedit.cons z) ih

theorem reverse (h : Edits n xs ys) : Edits n xs.reverse ys.reverse := by
  induction h with
  | none xs => exact .none _
  | more hedit _ ih => exact .more hedit.reverse ih

theorem reverse_iff : Edits n xs.reverse ys.reverse ↔ Edits n xs ys := by
  constructor
  · intro h
    simpa using h.reverse
  · exact reverse

theorem eq_of_zero (h : Edits 0 xs ys) : xs = ys := by
  cases h
  rfl

theorem minimum (h : Edits m xs ys) (h' : Edits n xs ys) : Edits (min m n) xs ys := by
  rcases Nat.le_total m n with hle | hle
  · rwa [Nat.min_eq_left hle]
  · rwa [Nat.min_eq_right hle]

theorem of_nil (ys : List α) : Edits ys.length [] ys := by
  induction ys with
  | nil => exact .none []
  | cons y ys ih => exact ih.trans (.more (.insert [] y ys) (.none _))

end Edits

/-! ## The least number of edits -/

section LeastEdits

variable [BEq α]

/-- The least number of edits, by what becomes of the first items: the one is deleted, the other
inserted, or the one becomes the other. -/
def leastEdits : List α → List α → Nat
  | [], ys => ys.length
  | x :: xs, [] => (x :: xs).length
  | x :: xs, y :: ys =>
    min (min (leastEdits xs (y :: ys) + 1) (leastEdits (x :: xs) ys + 1))
      (leastEdits xs ys + if x == y then 0 else 1)
termination_by xs ys => xs.length + ys.length

@[simp] theorem leastEdits_nil_left (ys : List α) : leastEdits [] ys = ys.length := by
  rw [leastEdits]

@[simp] theorem leastEdits_nil_right (xs : List α) : leastEdits xs [] = xs.length := by
  cases xs with
  | nil => rw [leastEdits]
  | cons x xs => rw [leastEdits]

theorem leastEdits_cons_cons (x y : α) (xs ys : List α) :
    leastEdits (x :: xs) (y :: ys) =
      min (min (leastEdits xs (y :: ys) + 1) (leastEdits (x :: xs) ys + 1))
        (leastEdits xs ys + if x == y then 0 else 1) := by
  rw [leastEdits]

theorem leastEdits_cons_left_le (x : α) (xs ys : List α) :
    leastEdits (x :: xs) ys ≤ leastEdits xs ys + 1 := by
  cases ys with
  | nil => simp
  | cons y ys =>
    rw [leastEdits_cons_cons]
    omega

theorem leastEdits_cons_right_le (xs : List α) (y : α) (ys : List α) :
    leastEdits xs (y :: ys) ≤ leastEdits xs ys + 1 := by
  cases xs with
  | nil => simp
  | cons x xs =>
    rw [leastEdits_cons_cons]
    omega

theorem leastEdits_cons_cons_le (x y : α) (xs ys : List α) :
    leastEdits (x :: xs) (y :: ys) ≤ leastEdits xs ys + 1 := by
  rw [leastEdits_cons_cons]
  split <;> omega

theorem leastEdits_le_cons (x : α) (xs zs : List α) :
    leastEdits xs zs ≤ leastEdits (x :: xs) zs + 1 := by
  induction zs with
  | nil =>
    rw [leastEdits_nil_right, leastEdits_nil_right, List.length_cons]
    omega
  | cons z zs ih =>
    have hright := leastEdits_cons_right_le xs z zs
    rw [leastEdits_cons_cons]
    omega

theorem leastEdits_replace_le (x y : α) (xs zs : List α) :
    leastEdits (x :: xs) zs ≤ leastEdits (y :: xs) zs + 1 := by
  induction zs with
  | nil => simp
  | cons z zs ih =>
    have hleft := leastEdits_cons_left_le x xs (z :: zs)
    have hright := leastEdits_cons_right_le (x :: xs) z zs
    have hboth := leastEdits_cons_cons_le x z xs zs
    rw [leastEdits_cons_cons y]
    omega

/-- What saves one edit at most does so behind a common front. -/
theorem leastEdits_append_le {xs xs' : List α}
    (h : ∀ zs, leastEdits xs zs ≤ leastEdits xs' zs + 1) (front zs : List α) :
    leastEdits (front ++ xs) zs ≤ leastEdits (front ++ xs') zs + 1 := by
  induction front generalizing zs with
  | nil => exact h zs
  | cons w front ih =>
    rw [List.cons_append, List.cons_append]
    induction zs with
    | nil =>
      have hnil := ih []
      simp only [leastEdits_nil_right, List.length_cons] at hnil ⊢
      omega
    | cons z zs ihzs =>
      have hleft := ih (z :: zs)
      have hboth := ih zs
      rw [leastEdits_cons_cons, leastEdits_cons_cons]
      omega

/-- **An edit saves one edit at most.** -/
theorem Edit.leastEdits_le {xs xs' : List α} (h : Edit xs xs') (zs : List α) :
    leastEdits xs zs ≤ leastEdits xs' zs + 1 := by
  cases h with
  | insert front y rest => exact leastEdits_append_le (leastEdits_le_cons y rest) front zs
  | delete front x rest => exact leastEdits_append_le (leastEdits_cons_left_le x rest) front zs
  | replace front x y rest => exact leastEdits_append_le (leastEdits_replace_le x y rest) front zs

variable [LawfulBEq α]

theorem leastEdits_self (xs : List α) : leastEdits xs xs = 0 := by
  induction xs with
  | nil => simp
  | cons x xs ih =>
    rw [leastEdits_cons_cons, ih, if_pos (beq_self_eq_true x)]
    omega

theorem Edits.leastEdits_le {n : Nat} {xs ys : List α} (h : Edits n xs ys) :
    leastEdits xs ys ≤ n := by
  induction h with
  | none xs => exact Nat.le_of_eq (leastEdits_self xs)
  | more hedit _ ih => exact Nat.le_trans (hedit.leastEdits_le _) (Nat.succ_le_succ ih)

theorem edits_leastEdits (xs ys : List α) : Edits (leastEdits xs ys) xs ys := by
  fun_induction leastEdits xs ys with
  | case1 ys => exact .of_nil ys
  | case2 x xs => exact (Edits.of_nil (x :: xs)).symm
  | case3 x xs y ys ihdelete ihinsert ihboth =>
    -- the least of the three numbers belongs to one of the three edits in front
    have hdelete : Edits (leastEdits xs (y :: ys) + 1) (x :: xs) (y :: ys) :=
      .more (.delete [] x xs) ihdelete
    have hinsert : Edits (leastEdits (x :: xs) ys + 1) (x :: xs) (y :: ys) :=
      .more (.insert [] y (x :: xs)) (ihinsert.cons y)
    have hboth : Edits (leastEdits xs ys + if x == y then 0 else 1) (x :: xs) (y :: ys) := by
      by_cases hxy : x = y
      · rw [if_pos (beq_iff_eq.2 hxy), hxy]
        exact ihboth.cons y
      · rw [if_neg (mt beq_iff_eq.1 hxy)]
        exact .more (.replace [] x y xs) (ihboth.cons y)
    exact (hdelete.minimum hinsert).minimum hboth

theorem isLeast_leastEdits (xs ys : List α) : IsLeast {n | Edits n xs ys} (leastEdits xs ys) := by
  constructor
  · exact edits_leastEdits xs ys
  · intro n hn
    exact hn.leastEdits_le

end LeastEdits

/-! ## Rows -/

section Rows

variable [BEq α]

/-- The cells of a row behind that for `seen`: the least numbers of edits between `xs` and the lists
that grow, item by item, in front of `seen`. -/
def rowBehind (xs : List α) : (seen ys : List α) → List Nat
  | _, [] => []
  | seen, y :: ys => leastEdits xs (y :: seen) :: rowBehind xs (y :: seen) ys

/-- The row of a list. Both lists are read from their ends on. -/
def rowOf (xs ys : List α) : List Nat := leastEdits xs [] :: rowBehind xs [] ys

theorem length_rowBehind (xs seen ys : List α) : (rowBehind xs seen ys).length = ys.length := by
  induction ys generalizing seen with
  | nil => rfl
  | cons y ys ih => rw [rowBehind, List.length_cons, ih, List.length_cons]

theorem nextCells_rowBehind (x : α) (xs seen ys : List α) :
    nextCells x ys (leastEdits xs seen) (rowBehind xs seen ys) (leastEdits (x :: xs) seen) =
      rowBehind (x :: xs) seen ys := by
  induction ys generalizing seen with
  | nil => rfl
  | cons y ys ih =>
    rw [rowBehind, rowBehind, nextCells, ← leastEdits_cons_cons, ih]

/-- **An item more makes the next row of the row.** -/
theorem nextRow_rowOf (x : α) (xs ys : List α) :
    nextRow ys (rowOf xs ys) x = rowOf (x :: xs) ys := by
  have hcorner : leastEdits xs [] + 1 = leastEdits (x :: xs) [] := by simp
  rw [rowOf, nextRow, hcorner, nextCells_rowBehind, rowOf]

theorem foldl_nextRow_rowOf (xs seen ys : List α) :
    xs.foldl (nextRow ys) (rowOf seen ys) = rowOf (xs.reverse ++ seen) ys := by
  induction xs generalizing seen with
  | nil => rfl
  | cons x xs ih =>
    rw [List.foldl_cons, nextRow_rowOf, ih, List.reverse_cons, List.append_assoc,
      List.singleton_append]

theorem rowBehind_nil_left (seen ys : List α) :
    rowBehind [] seen ys = List.range' (seen.length + 1) ys.length := by
  induction ys generalizing seen with
  | nil => rfl
  | cons y ys ih =>
    rw [rowBehind, ih, leastEdits_nil_left, List.length_cons, List.length_cons, List.range'_succ]

theorem rowOf_nil_left (ys : List α) : rowOf [] ys = List.range (ys.length + 1) := by
  rw [rowOf, rowBehind_nil_left, leastEdits_nil_left, List.range_eq_range', List.range'_succ]
  rfl

theorem getLastD_rowBehind (xs seen ys : List α) (d : Nat) :
    (leastEdits xs seen :: rowBehind xs seen ys).getLastD d =
      leastEdits xs (ys.reverse ++ seen) := by
  induction ys generalizing seen with
  | nil => rfl
  | cons y ys ih =>
    rw [rowBehind, List.getLastD_cons, List.reverse_cons, List.append_assoc,
      List.singleton_append, ← ih, List.getLastD_cons, List.getLastD_cons]

/-- The last cell of the last row belongs to both lists, read from their ends. -/
theorem editDistance_eq (xs ys : List α) :
    editDistance xs ys = leastEdits xs.reverse ys.reverse := by
  rw [editDistance, ← rowOf_nil_left, foldl_nextRow_rowOf, List.append_nil, rowOf,
    getLastD_rowBehind, List.append_nil]

/-- **The edit distance is the least number of edits.** -/
theorem isLeast_editDistance [LawfulBEq α] (xs ys : List α) :
    IsLeast {n | Edits n xs ys} (editDistance xs ys) := by
  have hleast := isLeast_leastEdits xs.reverse ys.reverse
  simp only [Edits.reverse_iff] at hleast
  rwa [editDistance_eq]

end Rows

end CodeFolding
