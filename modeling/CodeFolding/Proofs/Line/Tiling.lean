import CodeFolding.Proofs.LineEndings
/-!
# The lines of a text and the text of its lines

The lines of a text follow each other from its first byte to its last, with nothing between them but
the ends of lines; what the table of offsets says of a line is where its content stands. Main
statement: `tiles_ofText`. In the other direction, lines that are joined to a text are read back
from it, except for a last line that is empty: behind a line feed at the end of a text there is no
line (`hasLines_ofText_unlines`).
-/
namespace CodeFolding

/-! ## Between two lines -/

theorem Text.exists_eq_append_feed {front rest : Text} (hfeeds : newlines rest = 1)
    (hlast : (front ++ rest).getLast? = some '\n') : ∃ row, rest = row ++ ['\n'] ∧ '\n' ∉ row := by
  have hne : rest ≠ [] := by
    rintro rfl
    cases hfeeds
  rw [List.getLast?_append_of_ne_nil _ hne] at hlast
  obtain ⟨row, rfl⟩ := List.getLast?_eq_some_iff.1 hlast
  refine ⟨row, rfl, ?_⟩
  rw [newlines_append, newlines_cons, if_pos rfl, newlines_nil] at hfeeds
  exact newlines_eq_zero_iff.1 (by omega)

namespace Line

variable {t : Text} {i : Nat} {k l : Line}

/-- Behind the content of a line stand the line feed that ends its row, if there is one, and perhaps
a carriage return in front of it. -/
theorem IsRow.exists_return {front row feed rest : Text}
    (h : IsRow 0 front (row ++ (feed ++ rest)) i l) (hrow : '\n' ∉ row)
    (hfeed : feed ++ rest = [] ∨ (feed ++ rest).head? = some '\n') :
    ∃ back : Text, (back = [] ∨ back = ['\r']) ∧
      (front ++ (row ++ (feed ++ rest))).IsSlice (back ++ feed) l.stop
        (Text.size (front ++ (row ++ feed))) := by
  have hstop : Text.size (front ++ l.text) = l.stop := by
    rw [stop, h.start_eq, Text.size_append, Nat.zero_add]
  have heq := h.row_eq
  rw [Text.takeWhile_eq_of_split hrow hfeed] at heq
  rcases heq with rfl | rfl
  · refine ⟨[], Or.inl rfl, front ++ l.text, rest, ?_, hstop, ?_⟩ <;> simp
  · refine ⟨['\r'], Or.inr rfl, front ++ l.text, rest, ?_, hstop, ?_⟩ <;> simp

theorem exists_ending (hk : (ofText t)[i]? = some k) (hl : (ofText t)[i + 1]? = some l) :
    ∃ ending, t.IsSlice ending k.stop l.start ∧ (ending = ['\n'] ∨ ending = ['\r', '\n']) := by
  obtain ⟨front, rest, ht, hrow⟩ := isRow_of_getElem? hk
  obtain ⟨front', rest', ht', hrow'⟩ := isRow_of_getElem? hl
  have hfeeds := hrow.newlines_front
  have hfeeds' := hrow'.newlines_front
  rcases Text.split_cases (ht.symm.trans ht') with ⟨u, rfl, rfl⟩ | ⟨u, rfl, -, -⟩
  · -- the later line begins behind the first line feed that follows the beginning of the earlier
    have hone : Text.newlines u = 1 := by
      rw [Text.newlines_append] at hfeeds'
      omega
    have hlast : (front ++ u).getLast? = some '\n' := by
      refine hrow'.front_ends.resolve_left ?_
      intro hnil
      rw [(List.append_eq_nil_iff.1 hnil).2] at hone
      cases hone
    obtain ⟨row, rfl, hrowfeed⟩ := Text.exists_eq_append_feed hone hlast
    rw [List.append_assoc] at hrow ht
    obtain ⟨back, hback, hslice⟩ := hrow.exists_return hrowfeed (Or.inr rfl)
    rw [← ht, ← Nat.zero_add (Text.size _), ← hrow'.start_eq] at hslice
    refine ⟨back ++ ['\n'], hslice, ?_⟩
    rcases hback with rfl | rfl
    · exact Or.inl rfl
    · exact Or.inr rfl
  · -- the later line would begin in front of the earlier one
    rw [Text.newlines_append] at hfeeds
    omega

theorem exists_ending_last (hk : (ofText t)[i]? = some k) (hlast : i + 1 = (ofText t).size) :
    ∃ ending, t.IsSlice ending k.stop (Text.size t) ∧
      (ending = [] ∨ ending = ['\r'] ∨ ending = ['\n'] ∨ ending = ['\r', '\n']) := by
  obtain ⟨front, rest, ht, hrow⟩ := isRow_of_getElem? hk
  have hsize := size_ofText t
  have hcount := hrow.newlines_front
  have hfeeds : Text.newlines t = Text.newlines front + Text.newlines rest := by
    rw [ht, Text.newlines_append]
  -- the rest is a row with the line feed of the text, or without one
  have hrest : ∃ row feed, rest = row ++ (feed ++ []) ∧ '\n' ∉ row ∧
      (feed = [] ∨ feed = ['\n']) := by
    split at hsize
    · next hend =>
      rw [ht] at hend
      obtain ⟨row, rfl, hrowfeed⟩ := Text.exists_eq_append_feed (by omega) hend
      exact ⟨row, ['\n'], rfl, hrowfeed, Or.inr rfl⟩
    · exact ⟨rest, [], by simp, Text.newlines_eq_zero_iff.1 (by omega), Or.inl rfl⟩
  obtain ⟨row, feed, rfl, hrowfeed, hfeed⟩ := hrest
  have hstop : feed ++ [] = [] ∨ (feed ++ []).head? = some '\n' := by
    rcases hfeed with rfl | rfl <;> simp
  obtain ⟨back, hback, hslice⟩ := hrow.exists_return hrowfeed hstop
  rw [← ht] at hslice
  rw [List.append_nil] at ht
  rw [← ht] at hslice
  refine ⟨back ++ feed, hslice, ?_⟩
  rcases hback with rfl | rfl <;> rcases hfeed with rfl | rfl <;> simp

theorem start_eq_zero (hl : (ofText t)[0]? = some l) : l.start = 0 := by
  obtain ⟨front, rest, -, hrow⟩ := isRow_of_getElem? hl
  rcases hrow.front_ends with rfl | hlast
  · exact hrow.start_eq
  · have hpos := Text.newlines_pos_of_getLast? hlast
    have hfeeds := hrow.newlines_front
    omega

theorem size_ofText_pos (t : Text) : 0 < (ofText t).size := by
  have hsize := size_ofText t
  split at hsize
  · next hend =>
    have hpos := Text.newlines_pos_of_getLast? hend
    omega
  · omega

end Line

namespace LineReader

/-- A source gives the lines of a text, one behind the other from its first byte to its last. -/
structure Tiles (src : LineReader) (t : Text) : Prop where
  count_pos : 1 ≤ src.count
  /-- The content of a line is what the text holds between the two offsets of the line. -/
  content : ∀ i < src.count, ∃ row start stop, src.text? i = some row ∧
    src.start? i = some start ∧ src.stop? i = some stop ∧ t.IsSlice row start stop ∧ '\n' ∉ row
  start_zero : src.start? 0 = some 0
  /-- Between two lines stands the end of the first. -/
  between : ∀ i, i + 1 < src.count → ∃ stop start ending, src.stop? i = some stop ∧
    src.start? (i + 1) = some start ∧ t.IsSlice ending stop start ∧
    (ending = ['\n'] ∨ ending = ['\r', '\n'])
  /-- Behind the last line stands its end, or a carriage return, or nothing. -/
  behind : ∃ stop ending, src.stop? (src.count - 1) = some stop ∧
    t.IsSlice ending stop (Text.size t) ∧
    (ending = [] ∨ ending = ['\r'] ∨ ending = ['\n'] ∨ ending = ['\r', '\n'])
  /-- There are no other lines. -/
  outside : ∀ i, src.count ≤ i → src.text? i = none ∧ src.start? i = none ∧ src.stop? i = none
  /-- A line ends as many bytes behind its beginning as its content has. -/
  stop_eq : src.stop? = (measured src.count src.text? src.start?).stop?

theorem ofText_of_getElem? {t : Text} {i : Nat} {l : Line} (h : (Line.ofText t)[i]? = some l) :
    (ofText t).text? i = some l.text ∧ (ofText t).start? i = some l.start ∧
      (ofText t).stop? i = some l.stop := by
  simp [ofText, ofLines, h]

theorem exists_line_of_lt_count {t : Text} {i : Nat} (h : i < (ofText t).count) :
    ∃ l, (Line.ofText t)[i]? = some l :=
  ⟨_, Array.getElem?_eq_getElem h⟩

/-- **The lines of a text tile it.** Each line has its content between its offsets, on whole
characters; the first one begins at 0; between two lines stands a line feed, perhaps with a carriage
return in front of it, and behind the last one at most that. A text without carriage returns has the
same lines if every line feed gets one. -/
theorem tiles_ofText (t : Text) :
    (ofText t).Tiles t ∧
      ('\r' ∉ t → (ofText (Text.withReturns t)).count = (ofText t).count ∧
        (ofText (Text.withReturns t)).text? = (ofText t).text?) := by
  have hpos : 0 < (ofText t).count := Line.size_ofText_pos t
  refine ⟨⟨hpos, ?_, ?_, ?_, ?_, ?_, ?_⟩, ofText_withReturns⟩
  · intro i hi
    obtain ⟨l, hl⟩ := exists_line_of_lt_count hi
    obtain ⟨htext, hstart, hstop⟩ := ofText_of_getElem? hl
    obtain ⟨front, rest, ht, hfront, -, hfeed⟩ := Line.exists_split hl
    refine ⟨l.text, l.start, l.stop, htext, hstart, hstop, ⟨front, rest, ht, hfront, ?_⟩, hfeed⟩
    rw [Text.size_append, hfront]
    rfl
  · obtain ⟨l, hl⟩ := exists_line_of_lt_count hpos
    rw [(ofText_of_getElem? hl).2.1, Line.start_eq_zero hl]
  · intro i hi
    obtain ⟨k, hk⟩ := exists_line_of_lt_count (Nat.lt_of_succ_lt hi)
    obtain ⟨l, hl⟩ := exists_line_of_lt_count hi
    obtain ⟨ending, hslice, hending⟩ := Line.exists_ending hk hl
    exact ⟨k.stop, l.start, ending, (ofText_of_getElem? hk).2.2, (ofText_of_getElem? hl).2.1,
      hslice, hending⟩
  · obtain ⟨l, hl⟩ := exists_line_of_lt_count (Nat.sub_lt hpos Nat.one_pos)
    obtain ⟨ending, hslice, hending⟩ := Line.exists_ending_last hl (Nat.sub_add_cancel hpos)
    exact ⟨l.stop, ending, (ofText_of_getElem? hl).2.2, hslice, hending⟩
  · intro i hi
    have hnone : (Line.ofText t)[i]? = none := Array.getElem?_eq_none hi
    simp [ofText, ofLines, hnone]
  · funext i
    cases hl : (Line.ofText t)[i]? with
    | none => simp [ofText, ofLines, measured, hl]
    | some l => simp [ofText, ofLines, measured, hl, Line.stop]

/-- An empty line, a character of two bytes and a line feed at the end, with and without returns. -/
theorem tiles_ofText_of_feeds :
    let t : Text := "é\n\n ab\n".toList
    '\r' ∉ t ∧ (ofText t).Tiles t ∧ (ofText (Text.withReturns t)).count = 3 ∧
      (ofText (Text.withReturns t)).text? 2 = some " ab".toList := by
  intro t
  have hreturn : '\r' ∉ t := by decide
  obtain ⟨htiles, hreturns⟩ := tiles_ofText t
  obtain ⟨hcount, htext⟩ := hreturns hreturn
  refine ⟨hreturn, htiles, ?_, ?_⟩
  · rw [hcount]
    decide +kernel
  · rw [htext]
    decide +kernel

end LineReader

/-! ## Lines joined to a text -/

theorem Text.unlines_cons_cons (row next : Text) (rows : List Text) :
    unlines (row :: next :: rows) = row ++ '\n' :: unlines (next :: rows) := by
  rw [unlines, unlines, List.intercalate_cons_cons, List.append_assoc, List.singleton_append]

namespace Line

theorem cut_row {row : Text} (h : '\n' ∉ row) (rest : Text) (start : Nat) (reversed : Text)
    (done : Array Line) :
    cut (row ++ rest) start reversed done = cut rest start (row.reverse ++ reversed) done := by
  induction row generalizing reversed with
  | nil => rfl
  | cons c row ih =>
    rw [List.mem_cons, not_or] at h
    rw [List.cons_append, cut, if_neg (Ne.symm h.1), ih h.2, List.reverse_cons,
      List.append_assoc, List.singleton_append]

theorem text_finish_reverse {row : Text} (h : row.getLast? ≠ some '\r') (start : Nat)
    (feed : Text) : (finish start row.reverse feed).text = row := by
  rw [text_finish (by rwa [List.head?_reverse]), List.reverse_reverse]

/-- The lines of joined rows are these rows, up to a last one that is empty and has a line in front
of it. -/
theorem map_text_cut_unlines {row : Text} {rows : List Text}
    (hfeed : ∀ r ∈ row :: rows, '\n' ∉ r) (hreturn : ∀ r ∈ row :: rows, r.getLast? ≠ some '\r')
    (start : Nat) (done : Array Line) :
    (cut (Text.unlines (row :: rows)) start [] done).toList.map text =
      done.toList.map text ++
        if (done ≠ #[] ∨ rows ≠ []) ∧ (row :: rows).getLast? = some [] then (row :: rows).dropLast
        else row :: rows := by
  induction rows generalizing row start done with
  | nil =>
    have hrow := cut_row (hfeed row (by simp)) [] start [] done
    rw [List.append_nil, List.append_nil] at hrow
    rw [Text.unlines, List.intercalate_singleton, hrow, cut]
    by_cases hempty : row = []
    · by_cases hdone : done = #[] <;> simp [hempty, hdone, finish]
    · simp [hempty, text_finish_reverse (hreturn row (by simp))]
  | cons next rows ih =>
    rw [Text.unlines_cons_cons, cut_row (hfeed row (by simp)), List.append_nil, cut, if_pos rfl,
      ih (fun r hr => hfeed r (by simp [hr])) (fun r hr => hreturn r (by simp [hr])),
      List.getLast?_cons_cons, List.dropLast_cons_cons, Array.toList_push, List.map_append,
      List.map_singleton, text_finish_reverse (hreturn row (by simp))]
    simp only [ne_eq, Array.push_ne_empty, not_false_eq_true, true_or, true_and, reduceCtorEq,
      or_true]
    split <;> simp

theorem map_text_ofText_unlines {row : Text} {rows : List Text}
    (hfeed : ∀ r ∈ row :: rows, '\n' ∉ r) (hreturn : ∀ r ∈ row :: rows, r.getLast? ≠ some '\r') :
    (ofText (Text.unlines (row :: rows))).toList.map text =
      if rows ≠ [] ∧ (row :: rows).getLast? = some [] then (row :: rows).dropLast
      else row :: rows := by
  simpa [ofText] using map_text_cut_unlines hfeed hreturn 0 #[]

end Line

namespace LineReader

/-- A source reads back the given lines and no others. -/
structure HasLines (src : LineReader) (lines : List Text) : Prop where
  count_eq : src.count = lines.length
  text?_eq : ∀ i, src.text? i = lines[i]?

theorem hasLines_of_map_text {t : Text} {lines : List Text}
    (h : (Line.ofText t).toList.map Line.text = lines) : (ofText t).HasLines lines := by
  subst h
  refine ⟨?_, ?_⟩
  · simp [ofText, ofLines]
  · intro i
    simp [ofText, ofLines]

/-- **Lines that are joined to a text are read back from it, except for a last one that is empty.**
No line holds a line feed or ends in a carriage return. All of them are read back just if there is
one line only or the last one is not empty; otherwise all but the last are. -/
theorem hasLines_ofText_unlines (lines : List Text) (hne : lines ≠ [])
    (hfeed : ∀ r ∈ lines, '\n' ∉ r) (hreturn : ∀ r ∈ lines, r.getLast? ≠ some '\r') :
    let src := ofText (Text.unlines lines)
    (src.HasLines lines ↔ lines.length = 1 ∨ lines.getLast? ≠ some []) ∧
      (lines.length ≠ 1 → lines.getLast? = some [] → src.HasLines lines.dropLast) := by
  intro src
  obtain ⟨row, rows, rfl⟩ := List.exists_cons_of_ne_nil hne
  have hlines := Line.map_text_ofText_unlines hfeed hreturn
  have hone : (row :: rows).length = 1 ↔ rows = [] := by simp
  by_cases hlost : rows ≠ [] ∧ (row :: rows).getLast? = some []
  · rw [if_pos hlost] at hlines
    have hread := hasLines_of_map_text hlines
    refine ⟨iff_of_false ?_ ?_, fun _ _ => hread⟩
    · intro hall
      have hcount := hall.count_eq.symm.trans hread.count_eq
      rw [List.length_dropLast, List.length_cons] at hcount
      omega
    · rw [hone, not_or, not_not]
      exact hlost
  · rw [if_neg hlost] at hlines
    have hread := hasLines_of_map_text hlines
    rw [not_and_or, not_not] at hlost
    refine ⟨iff_of_true hread ?_, ?_⟩
    · rw [hone]
      exact hlost
    · intro hlength hend
      rw [Ne, hone] at hlength
      exact absurd hend (hlost.resolve_left hlength)

/-- Of two empty lines at the end one is read back; a return inside a line is no end of a line. -/
theorem hasLines_ofText_unlines_of_empty :
    let lines : List Text := ["é".toList, "\ra".toList, [], []]
    (ofText (Text.unlines lines)).HasLines ["é".toList, "\ra".toList, []] ∧
      ¬ (ofText (Text.unlines lines)).HasLines lines := by
  intro lines
  obtain ⟨hall, hrest⟩ := hasLines_ofText_unlines lines (by decide) (by decide) (by decide)
  refine ⟨hrest (by decide) (by decide), ?_⟩
  rw [hall]
  decide

/-- A line that is followed by an empty one is read back alone. -/
theorem not_hasLines_of_last_empty :
    ¬ (ofText (Text.unlines ["a".toList, []])).HasLines ["a".toList, []] := by
  intro h
  exact absurd h.count_eq (by decide +kernel)

end LineReader

end CodeFolding
