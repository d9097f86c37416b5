import CodeFolding.Line.Basic
import CodeFolding.Proofs.Text.Position
/-!
# Where the lines of a text stand

The lines of a text are counted by its line feeds: line `i` begins behind the `i`-th of them, and a
character stands on the line whose number is that of the line feeds in front of it. Main
statements: what line `i` holds (`isRow_of_getElem?`), that every character has its line
(`exists_isRow`), and how many lines there are (`size_ofText`).
-/
namespace CodeFolding.Line

/-- `l` is line `i` of the text `front ++ rest` whose first byte has the offset `start`: `front` is
made of the lines in front of it, and its content is what `rest` holds up to the first line feed,
less one carriage return at its end. -/
structure IsRow (start : Nat) (front rest : Text) (i : Nat) (l : Line) : Prop where
  start_eq : l.start = start + Text.size front
  newlines_front : Text.newlines front = i
  front_ends : front = [] ∨ front.getLast? = some '\n'
  row_eq : rest.takeWhile (· != '\n') = l.text ∨
    rest.takeWhile (· != '\n') = l.text ++ ['\r']

theorem reverse_eq_text_finish (start : Nat) (reversed feed : Text) :
    reversed.reverse = (finish start reversed feed).text ∨
      reversed.reverse = (finish start reversed feed).text ++ ['\r'] := by
  unfold finish
  split
  · right; simp
  · left; rfl

theorem start_finish (start : Nat) (reversed feed : Text) :
    (finish start reversed feed).start = start := by
  unfold finish
  split <;> rfl

theorem isRow_finish {start : Nat} {reversed rest feed : Text} (hrev : '\n' ∉ reversed)
    (hrest : rest = [] ∨ rest.head? = some '\n') :
    IsRow start [] (reversed.reverse ++ rest) 0 (finish start reversed feed) where
  start_eq := by simp [start_finish]
  newlines_front := rfl
  front_ends := Or.inl rfl
  row_eq := by
    rw [Text.takeWhile_eq_of_split (by simpa using hrev) hrest]
    exact reverse_eq_text_finish start reversed feed

/-- A row of the text behind `row` and its line feed, seen from in front of `row`. -/
theorem IsRow.behind {start i : Nat} {row front rest : Text} {l : Line} (hrow : '\n' ∉ row)
    (h : IsRow (start + Text.size row + 1) front rest i l) :
    IsRow start (row ++ '\n' :: front) rest (i + 1) l where
  start_eq := by
    have hfeed : Char.utf8Size '\n' = 1 := by decide
    rw [h.start_eq, Text.size_append, Text.size_cons, hfeed]
    omega
  newlines_front := by
    rw [Text.newlines_append, Text.newlines_cons, Text.newlines_eq_zero_iff.2 hrow,
      h.newlines_front]
    simp
  front_ends := by
    right
    rcases h.front_ends with rfl | hend
    · simp
    · rw [List.getLast?_append, List.getLast?_cons, hend]; rfl
  row_eq := h.row_eq

theorem getElem?_cut_of_lt {t reversed : Text} {start i : Nat} {done : Array Line}
    (hi : i < done.size) : (cut t start reversed done)[i]? = done[i]? := by
  induction t generalizing start reversed done with
  | nil =>
    rw [cut]
    split
    · rfl
    · rw [Array.getElem?_push_lt hi, Array.getElem?_eq_getElem hi]
  | cons c rest ih =>
    rw [cut]
    split
    · rw [ih (by rw [Array.size_push]; omega), Array.getElem?_push_lt hi,
        Array.getElem?_eq_getElem hi]
    · exact ih hi

/-- Of the lines that `cut` adds, line `i` stands in what was left to read. -/
theorem isRow_cut {t reversed : Text} {start i : Nat} {done : Array Line} {l : Line}
    (hrev : '\n' ∉ reversed) (h : (cut t start reversed done)[done.size + i]? = some l) :
    ∃ front rest, reversed.reverse ++ t = front ++ rest ∧ IsRow start front rest i l := by
  induction t generalizing start reversed done i with
  | nil =>
    rw [cut] at h
    split at h
    · simp at h
    · cases i with
      | zero =>
        obtain rfl : finish start reversed [] = l := by simpa using h
        exact ⟨[], reversed.reverse ++ [], rfl, isRow_finish hrev (Or.inl rfl)⟩
      | succ i => rw [Array.getElem?_eq_none (by rw [Array.size_push]; omega)] at h; cases h
  | cons c rest ih =>
    rw [cut] at h
    split at h
    · next hc =>
      subst hc
      cases i with
      | zero =>
        rw [getElem?_cut_of_lt (by simp)] at h
        obtain rfl : finish start reversed ['\n'] = l := by simpa using h
        exact ⟨[], reversed.reverse ++ '\n' :: rest, rfl, isRow_finish hrev (Or.inr rfl)⟩
      | succ i =>
        have hsize : done.size + (i + 1) = (done.push (finish start reversed ['\n'])).size + i := by
          rw [Array.size_push]; omega
        rw [hsize] at h
        obtain ⟨front, rest', hsplit, hrow⟩ := ih (by simp) h
        rw [← Text.size_reverse] at hrow
        refine ⟨reversed.reverse ++ '\n' :: front, rest', ?_, hrow.behind (by simpa using hrev)⟩
        simpa using hsplit
    · next hc =>
      obtain ⟨front, rest', hsplit, hrow⟩ := ih (by simp [hrev, Ne.symm hc]) h
      exact ⟨front, rest', by simpa using hsplit, hrow⟩

/-- **Line `i` of a text begins behind its `i`-th line feed.** -/
theorem isRow_of_getElem? {t : Text} {i : Nat} {l : Line} (h : (ofText t)[i]? = some l) :
    ∃ front rest, t = front ++ rest ∧ IsRow 0 front rest i l := by
  have := @isRow_cut t [] 0 i #[] l (by simp) (by simpa [ofText] using h)
  simpa using this

/-! ## How many lines there are -/

theorem size_cut (t : Text) (start : Nat) (reversed : Text) (done : Array Line) :
    (cut t start reversed done).size = done.size + Text.newlines t +
      if t.getLast? = some '\n' ∨ (t = [] ∧ reversed = [] ∧ done ≠ #[]) then 0 else 1 := by
  induction t generalizing start reversed done with
  | nil =>
    rw [cut]
    by_cases hr : reversed = [] <;> by_cases hd : done = #[] <;> simp [hr, hd]
  | cons c rest ih =>
    rw [cut]
    split
    · next hc =>
      subst hc
      rw [ih, Array.size_push, Text.newlines_cons]
      cases rest with
      | nil => simp
      | cons d rest => simp [List.getLast?_cons_cons]; omega
    · next hc =>
      rw [ih, Text.newlines_cons, if_neg hc]
      cases rest with
      | nil => simp [hc]
      | cons d rest => simp [List.getLast?_cons_cons]

/-- **A text has one line more than line feeds, and one less of them if it ends in one.** -/
theorem size_ofText (t : Text) :
    (ofText t).size + (if t.getLast? = some '\n' then 1 else 0) = Text.newlines t + 1 := by
  rw [ofText, size_cut]
  by_cases h : t.getLast? = some '\n' <;> simp [h]

/-! ## The line of a character -/

/-- **A character that is no line feed stands on the line with the number of the line feeds in
front of it.** -/
theorem exists_isRow {before after : Text} {c : Char} (hc : c ≠ '\n') :
    ∃ l front col, (ofText (before ++ c :: after))[Text.newlines before]? = some l ∧
      before = front ++ col ∧ '\n' ∉ col ∧
      IsRow 0 front (col ++ c :: after) (Text.newlines before) l := by
  have hlt : Text.newlines before < (ofText (before ++ c :: after)).size := by
    have hsize := size_ofText (before ++ c :: after)
    rw [Text.newlines_append, Text.newlines_cons, if_neg hc] at hsize
    split at hsize
    · next hend =>
      have hafter : after.getLast? = some '\n' := by
        cases after with
        | nil => simp [hc] at hend
        | cons d after => simpa [List.getLast?_append, List.getLast?_cons_cons] using hend
      have := Text.newlines_pos_of_getLast? hafter
      omega
    · omega
  obtain ⟨front, rest, hsplit, hrow⟩ := isRow_of_getElem? (Array.getElem?_eq_getElem hlt)
  rcases Text.split_cases hsplit with ⟨u, hfront, hrest⟩ | ⟨u, hbefore, hrest, -⟩
  · -- the line cannot begin behind the character: there is one line feed more in front of it
    cases u with
    | nil =>
      obtain rfl : rest = c :: after := by simpa using hrest.symm
      exact ⟨_, front, [], Array.getElem?_eq_getElem hlt, by simpa using hfront.symm, by simp, hrow⟩
    | cons d u =>
      obtain ⟨rfl, -⟩ : c = d ∧ after = u ++ rest := by simpa using hrest
      have hzero : Text.newlines (c :: u) = 0 := by
        have := hrow.newlines_front
        rw [hfront, Text.newlines_append] at this
        omega
      rcases hrow.front_ends with hnil | hend
      · simp [hfront] at hnil
      · rw [hfront, List.getLast?_append, List.getLast?_cons, Option.some_or] at hend
        rw [← List.getLast?_cons] at hend
        exact absurd (List.mem_of_getLast? hend) (Text.newlines_eq_zero_iff.1 hzero)
  · refine ⟨_, front, u, Array.getElem?_eq_getElem hlt, hbefore, ?_, hrest ▸ hrow⟩
    rw [← Text.newlines_eq_zero_iff]
    have hnum := hrow.newlines_front
    have := congrArg Text.newlines hbefore
    rw [Text.newlines_append] at this
    omega

/-- The content of a line holds every character of its row that ends no line. -/
theorem IsRow.text_eq {start i : Nat} {front col after : Text} {c : Char} {l : Line}
    (h : IsRow start front (col ++ c :: after) i l) (hcol : '\n' ∉ col) (hc : c ≠ '\n')
    (hcr : c ≠ '\r') : ∃ more, l.text = col ++ c :: more := by
  have hrow : (col ++ c :: after).takeWhile (· != '\n') =
      col ++ c :: after.takeWhile (· != '\n') := by
    rw [List.takeWhile_append_of_pos fun d hd => by
      simp only [bne_iff_ne, ne_eq]; rintro rfl; exact hcol hd]
    simp [hc]
  rcases h.row_eq with heq | heq
  · exact ⟨_, heq.symm.trans hrow⟩
  · have htext : l.text = (col ++ c :: after.takeWhile (· != '\n')).dropLast := by
      rw [← hrow, heq, List.dropLast_concat]
    cases hmore : after.takeWhile (· != '\n') with
    | nil =>
      have hlast := congrArg List.getLast? (hrow.symm.trans heq)
      rw [hmore] at hlast
      exact absurd (by simpa using hlast) hcr
    | cons d more =>
      refine ⟨(d :: more).dropLast, ?_⟩
      rw [htext, hmore, List.dropLast_append_of_ne_nil (by simp), List.dropLast_cons_of_ne_nil
        (by simp)]

theorem IsRow.text_prefix {start i : Nat} {front rest : Text} {l : Line}
    (h : IsRow start front rest i l) : l.text <+: rest := by
  refine List.IsPrefix.trans ?_ (List.takeWhile_prefix (· != '\n'))
  rcases h.row_eq with heq | heq
  · exact heq ▸ List.prefix_refl _
  · exact heq ▸ List.prefix_append _ _

theorem IsRow.not_mem_text {start i : Nat} {front rest : Text} {l : Line}
    (h : IsRow start front rest i l) : '\n' ∉ l.text := by
  intro hmem
  refine Text.not_mem_takeWhile rest ?_
  rcases h.row_eq with heq | heq
  · exact heq ▸ hmem
  · exact heq ▸ List.mem_append_left _ hmem

end CodeFolding.Line
