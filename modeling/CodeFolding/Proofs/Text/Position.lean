import CodeFolding.Text.Basic
/-!
# Positions in a text

A position is a splitting of the text into what is in front of it and what is behind. Its byte
offset is the size of the first part, its line the number of line feeds there. Main statement: the
character at an offset is the one behind a part of that size (`at?_eq_some_iff`).
-/
namespace CodeFolding.Text

@[simp] theorem newlines_nil : newlines [] = 0 := rfl

@[simp] theorem newlines_append (s t : Text) : newlines (s ++ t) = newlines s + newlines t :=
  List.count_append

theorem newlines_cons (c : Char) (t : Text) :
    newlines (c :: t) = newlines t + if c = '\n' then 1 else 0 := by
  simp only [newlines, List.count_cons, beq_iff_eq]

theorem newlines_eq_zero_iff {t : Text} : newlines t = 0 ↔ '\n' ∉ t :=
  List.count_eq_zero

theorem newlines_pos_of_getLast? {t : Text} (h : t.getLast? = some '\n') : 0 < newlines t :=
  List.count_pos_iff.2 (List.mem_of_getLast? h)

theorem size_pos {t : Text} (h : t ≠ []) : 0 < size t := by
  cases t with
  | nil => exact absurd rfl h
  | cons c t => have := c.utf8Size_pos; simp only [size_cons]; omega

theorem size_reverse (t : Text) : size t.reverse = size t := by
  induction t with
  | nil => rfl
  | cons c t ih => simp [ih, Nat.add_comm]

/-! ## The character at an offset -/

/-- The character that begins at a byte offset. -/
def at? : Text → Nat → Option Char
  | [], _ => none
  | c :: rest, n =>
    if n = 0 then some c
    else if n < c.utf8Size then none
    else at? rest (n - c.utf8Size)

theorem at?_append (front rest : Text) : at? (front ++ rest) (size front) = rest.head? := by
  induction front with
  | nil => cases rest <;> simp [at?]
  | cons c front ih =>
    have := c.utf8Size_pos
    rw [List.cons_append, at?, size_cons, if_neg (by omega), if_neg (by omega),
      Nat.add_sub_cancel_left, ih]

/-- **The character at an offset is the one behind a front of that size.** -/
theorem at?_eq_some_iff {t : Text} {n : Nat} {c : Char} :
    at? t n = some c ↔ ∃ front rest, t = front ++ c :: rest ∧ size front = n := by
  constructor
  · intro h
    induction t generalizing n with
    | nil => simp [at?] at h
    | cons d t ih =>
      rw [at?] at h
      split at h
      · next hn =>
        obtain rfl : d = c := by simpa using h
        exact ⟨[], t, rfl, hn.symm⟩
      · split at h
        · simp at h
        · obtain ⟨front, rest, rfl, hsize⟩ := ih h
          exact ⟨d :: front, rest, rfl, by rw [size_cons]; omega⟩
  · rintro ⟨front, rest, rfl, rfl⟩
    rw [at?_append, List.head?_cons]

/-! ## Splittings of one text -/

theorem split_cases {s t s' t' : Text} (h : s ++ t = s' ++ t') :
    (∃ u, s' = s ++ u ∧ t = u ++ t') ∨ ∃ u, s = s' ++ u ∧ t' = u ++ t ∧ u ≠ [] := by
  rcases List.append_eq_append_iff.1 h with ⟨u, hs, ht⟩ | ⟨u, hs, ht⟩
  · exact Or.inl ⟨u, hs, ht⟩
  · cases u with
    | nil => exact Or.inl ⟨[], by simpa using hs.symm, by simpa using ht.symm⟩
    | cons c u => exact Or.inr ⟨c :: u, hs, ht, by simp⟩

/-- The text holds `part` from the offset `first` up to the offset `stop`. Both offsets lie between
two characters, or at an end of the text. -/
def IsSlice (t part : Text) (first stop : Nat) : Prop :=
  ∃ front rest, t = front ++ (part ++ rest) ∧ size front = first ∧ size (front ++ part) = stop

theorem not_mem_takeWhile (t : Text) : '\n' ∉ t.takeWhile (· != '\n') := by
  intro h
  have hall := List.all_takeWhile (l := t) (p := (· != '\n'))
  rw [List.all_eq_true] at hall
  simpa using hall _ h

theorem dropWhile_eq_nil_or_head? (d : Char) (t : Text) :
    t.dropWhile (· != d) = [] ∨ (t.dropWhile (· != d)).head? = some d := by
  have hstop := List.head?_dropWhile_not (p := (· != d)) t
  cases hd : t.dropWhile (· != d) with
  | nil => exact Or.inl rfl
  | cons c more =>
    rw [hd] at hstop
    exact Or.inr (by simpa using hstop)

theorem takeWhile_eq_of_split {row rest : Text} (hrow : '\n' ∉ row)
    (hrest : rest = [] ∨ rest.head? = some '\n') :
    (row ++ rest).takeWhile (· != '\n') = row := by
  rw [List.takeWhile_append_of_pos fun c hc => by
    simp only [bne_iff_ne, ne_eq]; rintro rfl; exact hrow hc]
  rcases hrest with rfl | hrest
  · simp
  · obtain ⟨rest, rfl⟩ : ∃ more, rest = '\n' :: more := by
      cases rest with
      | nil => simp at hrest
      | cons c rest => exact ⟨rest, by simpa using hrest⟩
    simp

/-! ## The running row -/

/-- The end of a text from behind its last line feed on. -/
def lastRow (t : Text) : Text := (t.reverse.takeWhile (· != '\n')).reverse

@[simp] theorem lastRow_nil : lastRow [] = [] := rfl

theorem lastRow_append_singleton (t : Text) (c : Char) :
    lastRow (t ++ [c]) = if c = '\n' then [] else lastRow t ++ [c] := by
  by_cases h : c = '\n' <;> simp [lastRow, h]

theorem lastRow_append {front row : Text} (hfront : front = [] ∨ front.getLast? = some '\n')
    (hrow : '\n' ∉ row) : lastRow (front ++ row) = row := by
  have hrev : front.reverse = [] ∨ front.reverse.head? = some '\n' := by
    rcases hfront with rfl | h
    · exact Or.inl rfl
    · right; rw [List.head?_reverse]; exact h
  rw [lastRow, List.reverse_append, takeWhile_eq_of_split (by simpa using hrow) hrev,
    List.reverse_reverse]

/-! ## Carriage returns at the end -/

theorem dropReturns_append_return (t : Text) : dropReturns (t ++ ['\r']) = dropReturns t := by
  simp [dropReturns]

theorem dropReturns_suffix (s t : Text) : dropReturns t <:+ dropReturns (s ++ t) := by
  rw [dropReturns, dropReturns, List.reverse_append, List.dropWhile_append]
  split
  · next h => simp [List.isEmpty_iff.1 h]
  · rw [List.reverse_append, List.reverse_reverse]
    exact List.suffix_append _ _

end CodeFolding.Text
