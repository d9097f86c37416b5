import CodeFolding.Proofs.Line.Tiling
/-!
# A line that changes

A piece of a line gives way to another of its size. Then no other line is another, and as long as
both pieces begin with a character that is not blank and end alike in a carriage return, the line
itself keeps its offsets and its indentation. Main statements: the lines of both texts
(`exists_ofText_eq`) and the regions that are found in them (`forall₂_regions_of_agreesBeside`).
-/
namespace CodeFolding

/-! ## Lines of both texts -/

namespace Line

/-- Reading a front leaves a running line behind the lines that are done, whatever follows. -/
theorem exists_cut_append (front : Text) (start : Nat) (reversed : Text) (done : Array Line) :
    ∃ start' reversed' done', done'.size = done.size + Text.newlines front ∧
      ∀ rest, cut (front ++ rest) start reversed done = cut rest start' reversed' done' := by
  induction front generalizing start reversed done with
  | nil => exact ⟨start, reversed, done, rfl, fun _ => rfl⟩
  | cons c front ih =>
    by_cases hc : c = '\n'
    · obtain ⟨start', reversed', done', hsize, hcut⟩ :=
        ih (start + Text.size reversed + 1) [] (done.push (finish start reversed ['\n']))
      refine ⟨start', reversed', done', ?_, fun rest => ?_⟩
      · rw [hsize, Array.size_push, Text.newlines_cons, if_pos hc]
        omega
      · rw [List.cons_append, cut, if_pos hc, hcut]
    · obtain ⟨start', reversed', done', hsize, hcut⟩ := ih start (c :: reversed) done
      refine ⟨start', reversed', done', ?_, fun rest => ?_⟩
      · rw [hsize, Text.newlines_cons, if_neg hc, Nat.add_zero]
      · rw [List.cons_append, cut, if_neg hc, hcut]

theorem exists_cut_eq_append (t : Text) (start : Nat) (reversed : Text) :
    ∃ more, ∀ done, done ≠ #[] → cut t start reversed done = done ++ more := by
  induction t generalizing start reversed with
  | nil =>
    by_cases hreversed : reversed = []
    · refine ⟨#[], fun done hdone => ?_⟩
      simp [cut, hreversed, hdone]
    · refine ⟨#[finish start reversed []], fun done _ => ?_⟩
      rw [cut, if_neg (by simp [hreversed]), Array.push_eq_append]
  | cons c t ih =>
    by_cases hc : c = '\n'
    · obtain ⟨more, hmore⟩ := ih (start + Text.size reversed + 1) []
      refine ⟨#[finish start reversed ['\n']] ++ more, fun done _ => ?_⟩
      rw [cut, if_pos hc, hmore _ (Array.push_ne_empty), Array.push_eq_append, Array.append_assoc]
    · obtain ⟨more, hmore⟩ := ih start (c :: reversed)
      exact ⟨more, fun done hdone => by rw [cut, if_neg hc, hmore done hdone]⟩

/-- **A piece at the end of a line has its place in that line alone.** The lines above and below are
the same for all pieces of one size. -/
theorem exists_ofText_eq (front : Text) {behind : Text}
    (hbehind : behind = [] ∨ behind.head? = some '\n') (n : Nat) :
    ∃ above below start reversed feed, above.size = Text.newlines front ∧
      ∀ piece, piece ≠ [] → '\n' ∉ piece → Text.size piece = n →
        ofText (front ++ piece ++ behind) =
          above ++ #[finish start (piece.reverse ++ reversed) feed] ++ below := by
  obtain ⟨start, reversed, above, hsize, hcut⟩ := exists_cut_append front 0 [] #[]
  rw [Array.size_empty, Nat.zero_add] at hsize
  have hpiece : ∀ piece, '\n' ∉ piece → ofText (front ++ piece ++ behind) =
      cut behind start (piece.reverse ++ reversed) above := by
    intro piece hfeed
    rw [ofText, List.append_assoc, hcut, cut_row hfeed]
  rcases hbehind with rfl | hbehind
  · refine ⟨above, #[], start, reversed, [], hsize, fun piece hne hfeed _ => ?_⟩
    rw [hpiece piece hfeed, cut, if_neg (by simp [hne]), Array.push_eq_append, Array.append_empty]
  · obtain ⟨rest, rfl⟩ := List.head?_eq_some_iff.1 hbehind
    obtain ⟨below, hbelow⟩ := exists_cut_eq_append rest (start + (n + Text.size reversed) + 1) []
    refine ⟨above, below, start, reversed, ['\n'], hsize, fun piece _ hfeed hn => ?_⟩
    rw [hpiece piece hfeed, cut, if_pos rfl, Text.size_append, Text.size_reverse, hn,
      hbelow _ (Array.push_ne_empty), Array.push_eq_append]

/-- A line holds what was running in front of a character that is not blank, and the character. -/
theorem text_finish_of_ink {c : Char} {x : Text} (hink : isBlank c = false) (start : Nat)
    (reversed feed : Text) :
    ∃ more, (finish start ((c :: x).reverse ++ reversed) feed).text =
      reversed.reverse ++ c :: more := by
  rcases List.eq_nil_or_concat x with rfl | ⟨y, d, rfl⟩
  · refine ⟨[], ?_⟩
    rw [text_finish] <;> simp
    rintro rfl
    exact absurd hink (by decide)
  · by_cases hd : d = '\r'
    · refine ⟨y, ?_⟩
      simp [hd, finish]
    · refine ⟨y ++ [d], ?_⟩
      rw [text_finish] <;> simp [hd]

theorem stop_finish (start : Nat) (reversed feed : Text) :
    (finish start reversed feed).stop + (if reversed.head? = some '\r' then 1 else 0) =
      start + Text.size reversed := by
  have hreturn : Char.utf8Size '\r' = 1 := by decide
  cases reversed with
  | nil => rfl
  | cons c rest =>
    by_cases hc : c = '\r'
    · subst hc
      simp [finish, stop, Text.size_reverse, hreturn]
      omega
    · simp [finish, stop, Text.size_reverse, hc]
      omega

end Line

theorem Layout.indentOf_append_ink {row more : Text} {c : Char} (hink : isBlank c = false)
    (y : Layout) (i : Nat) :
    y.indentOf (i, row ++ c :: more) =
      ⟨i, (row.takeWhile (· == ' ')).length / y.width, false⟩ := by
  have hspace : (c == ' ') = false := by
    rw [beq_eq_false_iff_ne]
    rintro rfl
    exact absurd hink (by decide)
  have hspaces : (row ++ c :: more).takeWhile (· == ' ') = row.takeWhile (· == ' ') := by
    rw [List.takeWhile_append, List.takeWhile_cons, hspace]
    split
    · next hall =>
      rw [(List.takeWhile_prefix (· == ' ')).eq_of_length hall]
      exact List.append_nil row
    · rfl
  rw [indentOf, level, hspaces]
  simp [hink]

/-! ## Sources that differ in one line -/

namespace LineReader

/-- Two sources know the same of every line, except for the content of one of them, and of that one
they know the same offsets and the same indentation. -/
structure AgreesBeside (line : Nat) (src src' : LineReader) : Prop where
  count_eq : src.count = src'.count
  start?_eq : src.start? = src'.start?
  stop?_eq : src.stop? = src'.stop?
  indentOf_eq : ∀ (y : Layout) (i : Nat), (src.text? i).map (fun t => y.indentOf (i, t)) =
    (src'.text? i).map fun t => y.indentOf (i, t)
  text?_eq : ∀ i, i ≠ line → src.text? i = src'.text? i

variable {src src' : LineReader} {line : Nat}

/-- Of the lines of a range both sources give the same records. -/
theorem AgreesBeside.map_indentOf_run (h : src.AgreesBeside line src') (y : Layout)
    (r : LineRange) : (src.run r).map y.indentOf = (src'.run r).map y.indentOf := by
  have hread : ∀ n first, (readFrom src.text? n first []).map y.indentOf =
      (readFrom src'.text? n first []).map y.indentOf := by
    intro n
    induction n with
    | zero => intro first; rfl
    | succ n ih =>
      intro first
      have hindent := h.indentOf_eq y first
      rw [readFrom_succ, readFrom_succ]
      cases htext : src.text? first with
      | none =>
        rw [htext, Option.map_none, eq_comm, Option.map_eq_none_iff] at hindent
        rw [hindent]
      | some t =>
        rw [htext, Option.map_some, eq_comm, Option.map_eq_some_iff] at hindent
        obtain ⟨t', htext', hindent⟩ := hindent
        rw [htext', List.map_cons, List.map_cons, hindent, ih]
  rw [run, run, h.count_eq, hread]

/-- Lines of which one may have another content. -/
theorem agreesBeside_ofLines {above below : Array Line} {l l' : Line} (hstart : l.start = l'.start)
    (hstop : l.stop = l'.stop)
    (hindent : ∀ (y : Layout) (i : Nat), y.indentOf (i, l.text) = y.indentOf (i, l'.text)) :
    (ofLines (above ++ #[l] ++ below)).AgreesBeside above.size
      (ofLines (above ++ #[l'] ++ below)) := by
  have hmap : ∀ {α : Type} (f : Line → α), f l = f l' → ∀ i : Nat,
      (above ++ #[l] ++ below)[i]?.map f = (above ++ #[l'] ++ below)[i]?.map f := by
    intro α f hf i
    rw [← Array.getElem?_map, ← Array.getElem?_map]
    simp only [Array.map_append, List.map_toArray, List.map_cons, List.map_nil, hf]
  refine ⟨by simp [ofLines], funext (hmap Line.start hstart), funext (hmap Line.stop hstop), ?_, ?_⟩
  · intro y i
    have hindent := hmap (fun l => y.indentOf (i, l.text)) (hindent y i) i
    simpa [ofLines, Function.comp_def] using hindent
  · intro i hi
    have hline : (above ++ #[l] ++ below)[i]? = (above ++ #[l'] ++ below)[i]? := by
      rcases Nat.lt_or_gt_of_ne hi with hlt | hgt
      · rw [Array.append_assoc, Array.append_assoc, Array.getElem?_append_left hlt,
          Array.getElem?_append_left hlt]
      · have hle : ∀ k : Line, (above ++ #[k]).size ≤ i := fun k => by
          rw [Array.size_append]
          exact hgt
        rw [Array.getElem?_append_right (hle l), Array.getElem?_append_right (hle l')]
        simp only [Array.size_append, List.size_toArray, List.length_singleton]
    simp only [ofLines, hline]

/-- **A piece of a line that gives way to another leaves two sources that agree beside that line.**
The pieces stand at the end of the line and have one size, begin with a character that is not blank
and end alike in a carriage return. -/
theorem agreesBeside_ofText (front : Text) {behind x x' : Text} {c c' : Char}
    (hink : isBlank c = false) (hink' : isBlank c' = false) (hfeed : '\n' ∉ c :: x)
    (hfeed' : '\n' ∉ c' :: x') (hsize : Text.size (c :: x) = Text.size (c' :: x'))
    (hreturn : (c :: x).getLast? = some '\r' ↔ (c' :: x').getLast? = some '\r')
    (hbehind : behind = [] ∨ behind.head? = some '\n') :
    (ofText (front ++ c :: x ++ behind)).AgreesBeside (Text.newlines front)
      (ofText (front ++ c' :: x' ++ behind)) := by
  obtain ⟨above, below, start, reversed, feed, habove, hlines⟩ :=
    Line.exists_ofText_eq front hbehind (Text.size (c :: x))
  rw [ofText, ofText, hlines _ (by simp) hfeed rfl, hlines _ (by simp) hfeed' hsize.symm, ← habove]
  refine agreesBeside_ofLines ?_ ?_ fun y i => ?_
  · rw [Line.start_finish, Line.start_finish]
  · have hlast : ∀ (d : Char) (z : Text),
        ((d :: z).reverse ++ reversed).head? = (d :: z).getLast? := by
      intro d z
      rw [List.head?_append_of_ne_nil _ (by simp), List.head?_reverse]
    have hstop := Line.stop_finish start ((c :: x).reverse ++ reversed) feed
    have hstop' := Line.stop_finish start ((c' :: x').reverse ++ reversed) feed
    rw [hlast, Text.size_append, Text.size_reverse] at hstop hstop'
    simp only [hreturn] at hstop
    omega
  · obtain ⟨more, hmore⟩ := Line.text_finish_of_ink (x := x) hink start reversed feed
    obtain ⟨more', hmore'⟩ := Line.text_finish_of_ink (x := x') hink' start reversed feed
    rw [hmore, hmore', Layout.indentOf_append_ink hink, Layout.indentOf_append_ink hink']

end LineReader

/-! ## Regions in both sources -/

/-- Two regions are the same, but if they begin on the given line the placeholders may differ. -/
structure Region.AgreesBeside (line : Nat) (g g' : Region) : Prop where
  startLine_eq : g.startLine = g'.startLine
  endLine_eq : g.endLine = g'.endLine
  startOffset_eq : g.startOffset = g'.startOffset
  endOffset_eq : g.endOffset = g'.endOffset
  placeholder_eq : g.startLine ≠ line → g.placeholder = g'.placeholder

namespace Layout

variable {src src' : LineReader} {line : Nat}

theorem regionOf_eq_of_agreesBeside (h : src.AgreesBeside line src') (y : Layout) (b : Block) :
    y.regionOf src b = y.regionOf src' b := by
  have hlevel : ∀ start, ((src.text? b.startLine).map fun t => start + y.level t * y.width) =
      (src'.text? b.startLine).map fun t => start + y.level t * y.width := by
    intro start
    have hindent := congrArg (Option.map fun i => start + i.level * y.width)
      (h.indentOf_eq y b.startLine)
    simpa [Function.comp_def, indentOf] using hindent
  simp only [regionOf, h.start?_eq, h.stop?_eq, hlevel]

theorem regionOf_eq_map (y : Layout) (src : LineReader) (b : Block) :
    y.regionOf src b = (y.regionOf src { b with placeholder := [] }).map fun g =>
      ⟨g.startOffset, g.endOffset, b.placeholder, b.startLine, b.endLine⟩ := by
  unfold regionOf
  cases src.start? b.startLine with
  | none => rfl
  | some start =>
    cases y.regionStart <;> cases src.text? b.startLine <;> cases src.stop? b.endLine <;> rfl

/-- **In sources that agree beside a line the same regions are found,** with the same placeholders
if they do not begin on that line. -/
theorem forall₂_regions_of_agreesBeside (h : src.AgreesBeside line src') (y : Layout)
    (r : LineRange) (isComment : Nat → Bool) :
    List.Forall₂ (Region.AgreesBeside line) (y.regions src r isComment)
      (y.regions src' r isComment) := by
  have hblocks : List.Forall₂ (fun b b' : Block => b.startLine = b'.startLine ∧
      b.endLine = b'.endLine ∧ (b.startLine ≠ line → b.placeholder = b'.placeholder))
      (y.blocks src r isComment) (y.blocks src' r isComment) := by
    rw [blocks_eq, blocks_eq, h.map_indentOf_run, List.forall₂_map_left_iff, List.forall₂_map_right_iff,
      List.forall₂_same]
    intro pair _
    refine ⟨rfl, rfl, fun hline => ?_⟩
    exact congrArg (fun t => CodeFolding.placeholder (Option.getD t [])) (h.text?_eq _ hline)
  refine List.rel_filterMap ?_ hblocks
  rintro ⟨startLine, endLine, placeholder⟩ ⟨_, _, placeholder'⟩ ⟨rfl, rfl, hplaceholder⟩
  rw [regionOf_eq_map y src, regionOf_eq_map y src', regionOf_eq_of_agreesBeside h]
  cases y.regionOf src' ⟨startLine, endLine, []⟩ with
  | none => exact .none
  | some g => exact .some ⟨rfl, rfl, rfl, rfl, hplaceholder⟩

end Layout

end CodeFolding
