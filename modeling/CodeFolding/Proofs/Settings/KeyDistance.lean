import CodeFolding.Proofs.Scanner.Slice
import CodeFolding.Proofs.Settings.EditDistance
import CodeFolding.Settings.Merge
/-!
# The distance of two keys

Keys are compared byte by byte. The rows of their distance fit into two buffers that change places
behind every byte: the row that was filled last is read while the other buffer, which holds the row
before it, is written over from its first cell on. Every access to a buffer may be a fault. Main
statements: the two buffers give the edit distance without a fault (`distance?_eq`), and the
distance of two keys is the least number of edits between their bytes, which makes it a metric on
keys (`keyDistance_exact`).
-/
namespace CodeFolding

/-! ## Rows in two buffers -/

/-- The buffer with the row that was filled last, and the one to fill. -/
structure RowBuffers where
  filled : List Nat
  stale : List Nat

namespace RowBuffers

def readCell (row : List Nat) (j : Nat) : Except Fault Nat :=
  match row[j]? with
  | some n => .ok n
  | none => .error .index

def writeCell (row : List Nat) (j n : Nat) : Except Fault (List Nat) :=
  if j < row.length then .ok (row.set j n) else .error .index

variable {α : Type} [BEq α]

/-- Writes the cells of the row for `x` behind index `j`, while the row above it is read. -/
def fill (x : α) (above : List Nat) : List α → (j : Nat) → (row : List Nat) →
    Except Fault (List Nat)
  | [], _, row => .ok row
  | y :: ys, j, row => do
    let up ← readCell above (j + 1)
    let left ← readCell row j
    let corner ← readCell above j
    let cell := min (min (up + 1) (left + 1)) (corner + if x == y then 0 else 1)
    fill x above ys (j + 1) (← writeCell row (j + 1) cell)

/-- Fills the row for `x`, the item behind `i` others, and lets the buffers change places. -/
def step (ys : List α) (i : Nat) (x : α) (b : RowBuffers) : Except Fault RowBuffers := do
  let row ← writeCell b.stale 0 (i + 1)
  return ⟨← fill x b.filled ys 0 row, b.filled⟩

def run (ys : List α) : List α → (i : Nat) → RowBuffers → Except Fault RowBuffers
  | [], _, b => .ok b
  | x :: xs, i, b => do run ys xs (i + 1) (← b.step ys i x)

/-- The edit distance by two buffers. -/
def distance? (xs ys : List α) : Except Fault Nat := do
  let b ← run ys xs 0 ⟨List.range (ys.length + 1), List.replicate (ys.length + 1) 0⟩
  readCell b.filled ys.length

theorem readCell_append (front : List Nat) (n : Nat) (rest : List Nat) :
    readCell (front ++ n :: rest) front.length = .ok n := by
  simp [readCell]

theorem writeCell_append (front : List Nat) (m : Nat) (rest : List Nat) (n : Nat) :
    writeCell (front ++ m :: rest) front.length n = .ok (front ++ n :: rest) := by
  simp [writeCell]

/-- **Whatever a buffer held, behind its filled cells it gets the cells of the next row.** -/
theorem fill_eq (x : α) (ys : List α) {j : Nat} (front done : List Nat) (corner left : Nat)
    (above stale : List Nat) (hfront : front.length = j) (hdone : done.length = j)
    (habove : above.length = ys.length) (hstale : stale.length = ys.length) :
    fill x (front ++ corner :: above) ys j (done ++ left :: stale) =
      .ok (done ++ left :: nextCells x ys corner above left) := by
  induction ys generalizing j front done corner left above stale with
  | nil =>
    obtain rfl := List.length_eq_zero_iff.1 habove
    obtain rfl := List.length_eq_zero_iff.1 hstale
    rfl
  | cons y ys ih =>
    obtain ⟨up, above, rfl⟩ := List.exists_cons_of_length_eq_add_one habove
    obtain ⟨old, stale, rfl⟩ := List.exists_cons_of_length_eq_add_one hstale
    have hup : readCell (front ++ corner :: up :: above) (j + 1) = .ok up := by
      simpa [hfront] using readCell_append (front ++ [corner]) up above
    have hleft : readCell (done ++ left :: old :: stale) j = .ok left :=
      hdone ▸ readCell_append done left (old :: stale)
    have hcorner : readCell (front ++ corner :: up :: above) j = .ok corner :=
      hfront ▸ readCell_append front corner (up :: above)
    have hwrite : ∀ n, writeCell (done ++ left :: old :: stale) (j + 1) n =
        .ok (done ++ left :: n :: stale) := by
      intro n
      simpa [hdone] using writeCell_append (done ++ [left]) old stale n
    have hrest : ∀ n, fill x (front ++ corner :: up :: above) ys (j + 1)
        (done ++ left :: n :: stale) = .ok (done ++ left :: n :: nextCells x ys up above n) := by
      intro n
      have hlengths : above.length = ys.length ∧ stale.length = ys.length := by
        simpa using And.intro habove hstale
      simpa [hfront, hdone] using ih (j := j + 1) (front ++ [corner]) (done ++ [left]) up n above
        stale (by simp [hfront]) (by simp [hdone]) hlengths.1 hlengths.2
    rw [fill, hup, Fault.ok_bind, hleft, Fault.ok_bind, hcorner, Fault.ok_bind]
    dsimp only
    rw [hwrite, Fault.ok_bind, hrest, nextCells]

/-- **A step fills the row for one more item.** -/
theorem step_rowOf (ys seen : List α) (x : α) {stale : List Nat}
    (hstale : stale.length = ys.length + 1) :
    step ys seen.length x ⟨rowOf seen ys, stale⟩ = .ok ⟨rowOf (x :: seen) ys, rowOf seen ys⟩ := by
  obtain ⟨old, stale, rfl⟩ := List.exists_cons_of_length_eq_add_one hstale
  have hwrite : writeCell (old :: stale) 0 (seen.length + 1) = .ok ((seen.length + 1) :: stale) :=
    writeCell_append [] old stale _
  have hfirst : leastEdits (x :: seen) [] = seen.length + 1 := by simp
  have hfill : fill x (rowOf seen ys) ys 0 ((seen.length + 1) :: stale) =
      .ok (rowOf (x :: seen) ys) := by
    have hcells := fill_eq x ys [] [] (leastEdits seen []) (leastEdits (x :: seen) [])
      (rowBehind seen [] ys) stale rfl rfl (length_rowBehind seen [] ys) (by simpa using hstale)
    rw [nextCells_rowBehind, hfirst] at hcells
    rw [rowOf, rowOf, hfirst]
    exact hcells
  rw [step, hwrite, Fault.ok_bind, hfill, Fault.ok_bind]
  rfl

theorem run_rowOf (ys xs seen : List α) {stale : List Nat}
    (hstale : stale.length = ys.length + 1) :
    ∃ stale', run ys xs seen.length ⟨rowOf seen ys, stale⟩ =
      .ok ⟨rowOf (xs.reverse ++ seen) ys, stale'⟩ := by
  induction xs generalizing seen stale with
  | nil => exact ⟨stale, rfl⟩
  | cons x xs ih =>
    have hlength : (rowOf seen ys).length = ys.length + 1 := by
      rw [rowOf, List.length_cons, length_rowBehind]
    obtain ⟨stale', hrun⟩ := ih (x :: seen) hlength
    refine ⟨stale', ?_⟩
    rw [run, step_rowOf ys seen x hstale, Fault.ok_bind, ← List.length_cons, hrun,
      List.reverse_cons, List.append_assoc, List.singleton_append]

theorem readCell_last {row : List Nat} {n : Nat} (h : row.length = n + 1) :
    readCell row n = .ok (row.getLastD 0) := by
  rw [readCell, List.getLastD_eq_getLast?, List.getLast?_eq_getElem?, h, Nat.add_sub_cancel,
    List.getElem?_eq_getElem (by omega)]
  rfl

/-- **Two buffers give the edit distance without a fault.** -/
theorem distance?_eq (xs ys : List α) : distance? xs ys = .ok (editDistance xs ys) := by
  have hstale : (List.replicate (ys.length + 1) 0).length = ys.length + 1 := List.length_replicate
  obtain ⟨stale, hrun⟩ := run_rowOf ys xs [] hstale
  have hlength : (rowOf (xs.reverse ++ []) ys).length = ys.length + 1 := by
    rw [rowOf, List.length_cons, length_rowBehind]
  rw [rowOf_nil_left, List.length_nil] at hrun
  rw [distance?, hrun, Fault.ok_bind, readCell_last hlength, editDistance, ← rowOf_nil_left,
    foldl_nextRow_rowOf]

end RowBuffers

/-! ## The bytes of keys -/

theorem toList_loop_eq (b : ByteArray) (i : Nat) (r : List UInt8) :
    ByteArray.toList.loop b i r = r.reverse ++ b.data.toList.drop i := by
  have hlength : b.data.toList.length = b.size := rfl
  fun_induction ByteArray.toList.loop b i r with
  | case1 i r hlt ih =>
    have hi : i < b.data.toList.length := by omega
    have hget : b.get! i = b.data.toList[i] := by
      rw [Array.getElem_toList]
      exact getElem!_pos b.data i hi
    rw [ih, List.reverse_cons, List.append_assoc, List.singleton_append, hget,
      List.drop_eq_getElem_cons hi]
  | case2 i r hge => rw [List.drop_of_length_le (by omega), List.append_nil]

theorem eq_of_toList_toUTF8_eq {a b : String} (h : a.toUTF8.toList = b.toUTF8.toList) : a = b := by
  rw [ByteArray.toList, ByteArray.toList, toList_loop_eq, toList_loop_eq] at h
  have hbytes : a.toUTF8 = b.toUTF8 := ByteArray.ext (Array.toList_inj.1 (by simpa using h))
  exact String.toByteArray_inj.1 hbytes

/-- **The distance of two keys is the least number of edits between their bytes.** It is computed in
two buffers without a fault, it is the same in both directions, it is zero just between a key and
itself, and it is at most the sum of the distances over a third key. -/
theorem keyDistance_exact (a b c : String) :
    IsLeast {n | Edits n a.toUTF8.toList b.toUTF8.toList} (keyDistance a b) ∧
      RowBuffers.distance? a.toUTF8.toList b.toUTF8.toList = .ok (keyDistance a b) ∧
      keyDistance a b = keyDistance b a ∧ (keyDistance a b = 0 ↔ a = b) ∧
      keyDistance a c ≤ keyDistance a b + keyDistance b c := by
  have hleast : ∀ a b : String,
      IsLeast {n | Edits n a.toUTF8.toList b.toUTF8.toList} (keyDistance a b) :=
    fun a b => isLeast_editDistance _ _
  refine ⟨hleast a b, RowBuffers.distance?_eq _ _, ?_, ?_, ?_⟩
  · apply Nat.le_antisymm
    · exact (hleast a b).2 (hleast b a).1.symm
    · exact (hleast b a).2 (hleast a b).1.symm
  · constructor
    · intro hzero
      have hedits : Edits (keyDistance a b) a.toUTF8.toList b.toUTF8.toList := (hleast a b).1
      rw [hzero] at hedits
      exact eq_of_toList_toUTF8_eq hedits.eq_of_zero
    · rintro rfl
      exact Nat.le_zero.1 ((hleast a a).2 (.none _))
  · exact (hleast a c).2 ((hleast a b).1.trans (hleast b c).1)

end CodeFolding
