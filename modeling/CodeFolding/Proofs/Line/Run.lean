import CodeFolding.Line.Basic
/-!
# The lines that are read from a range

A range is read from its first line on, until it ends, the source ends or a line has no content.
Main statement: the lines read are those that `Reaches` describes, one behind the other
(`getElem?_run`).
-/
namespace CodeFolding.LineReader

/-- Line `i` is read from the range: the range and the source hold it, and no line of the range up
to it is without content. -/
def Reaches (src : LineReader) (r : LineRange) (i : Nat) : Prop :=
  r.first ≤ i ∧ i ≤ r.last ∧ i < src.count ∧ ∀ j, r.first ≤ j → j ≤ i → (src.text? j).isSome

theorem Reaches.exists_text {src : LineReader} {r : LineRange} {i : Nat} (h : src.Reaches r i) :
    ∃ t, src.text? i = some t :=
  Option.isSome_iff_exists.1 (h.2.2.2 i h.1 (Nat.le_refl i))

theorem readFrom_eq (text? : Nat → Option Text) (n line : Nat) (read : List (Nat × Text)) :
    readFrom text? n line read = read.reverse ++ readFrom text? n line [] := by
  induction n generalizing line read with
  | zero => simp [readFrom]
  | succ n ih =>
    cases ht : text? line with
    | none => simp [readFrom, ht]
    | some t =>
      simp only [readFrom, ht]
      rw [ih _ ((line, t) :: read), ih _ [(line, t)]]
      simp

theorem readFrom_succ (text? : Nat → Option Text) (n line : Nat) :
    readFrom text? (n + 1) line [] =
      match text? line with
      | none => []
      | some t => (line, t) :: readFrom text? n (line + 1) [] := by
  cases ht : text? line with
  | none => simp [readFrom, ht]
  | some t =>
    simp only [readFrom, ht]
    rw [readFrom_eq]
    rfl

theorem getElem?_readFrom {text? : Nat → Option Text} {n line k i : Nat} {t : Text} :
    (readFrom text? n line [])[k]? = some (i, t) ↔
      i = line + k ∧ k < n ∧ text? i = some t ∧
        ∀ j, line ≤ j → j ≤ i → (text? j).isSome := by
  induction n generalizing line k with
  | zero => simp [readFrom]
  | succ n ih =>
    rw [readFrom_succ]
    cases ht : text? line with
    | none =>
      simp only [List.getElem?_nil, reduceCtorEq, false_iff]
      rintro ⟨rfl, -, -, hall⟩
      have := hall line (Nat.le_refl line) (by omega)
      simp [ht] at this
    | some u =>
      cases k with
      | zero =>
        simp only [List.getElem?_cons_zero, Option.some.injEq, Prod.mk.injEq]
        constructor
        · rintro ⟨rfl, rfl⟩
          refine ⟨rfl, by omega, ht, fun j h1 h2 => ?_⟩
          obtain rfl : j = line := by omega
          simp [ht]
        · rintro ⟨rfl, -, h, -⟩
          exact ⟨rfl, by simpa [ht] using h⟩
      | succ k =>
        rw [List.getElem?_cons_succ, ih]
        constructor
        · rintro ⟨rfl, hk, h, hall⟩
          refine ⟨by omega, by omega, h, fun j h1 h2 => ?_⟩
          by_cases hj : j = line
          · subst hj; simp [ht]
          · exact hall j (by omega) h2
        · rintro ⟨rfl, hk, h, hall⟩
          exact ⟨by omega, by omega, h, fun j h1 h2 => hall j (by omega) h2⟩

/-- **The lines read from a range are those that are reached, in order.** -/
theorem getElem?_run {src : LineReader} {r : LineRange} {k i : Nat} {t : Text} :
    (src.run r)[k]? = some (i, t) ↔
      i = r.first + k ∧ src.Reaches r i ∧ src.text? i = some t := by
  rw [run, getElem?_readFrom]
  constructor
  · rintro ⟨rfl, hk, ht, hall⟩
    exact ⟨rfl, ⟨by omega, by omega, by omega, hall⟩, ht⟩
  · rintro ⟨rfl, ⟨-, hlast, hcount, hall⟩, ht⟩
    exact ⟨rfl, by omega, ht, hall⟩

end CodeFolding.LineReader
