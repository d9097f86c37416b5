import CodeFolding.Proofs.Block.Local
/-!
# Blocks of lines that are indented further

Blocks are found by comparing levels. If the lines of a source all move to the right by the same
number of whole levels, every level grows by that number: those of blank lines, too, which count
behind an opener, and those of lines in which a tab ends the spaces. What is behind the spaces stays
as it is, and with it the placeholders. A source may run dry earlier than the other; then it has the
blocks whose last line it still has. Main statement: `blocks_of_indents`.
-/
namespace CodeFolding

namespace Text

/-- The text behind `n` spaces. -/
def indent (n : Nat) (t : Text) : Text := List.replicate n ' ' ++ t

theorem forall_mem_spaces {p : Char → Bool} (h : p ' ' = true) (n : Nat) :
    ∀ c ∈ List.replicate n ' ', p c = true := by
  intro c hc
  rw [List.eq_of_mem_replicate hc]
  exact h

theorem takeWhile_indent (n : Nat) (t : Text) :
    (indent n t).takeWhile (· == ' ') = List.replicate n ' ' ++ t.takeWhile (· == ' ') := by
  rw [indent, List.takeWhile_append_of_pos]
  exact forall_mem_spaces rfl n

theorem all_isBlank_indent (n : Nat) (t : Text) : (indent n t).all isBlank = t.all isBlank := by
  have hspaces : (List.replicate n ' ').all isBlank = true := by
    rw [List.all_eq_true]
    exact forall_mem_spaces (by decide) n
  rw [indent, List.all_append, hspaces, Bool.true_and]

theorem trimStart_indent (n : Nat) (t : Text) : trimStart (indent n t) = trimStart t := by
  rw [trimStart, indent, List.dropWhile_append_of_pos]
  · rfl
  · exact forall_mem_spaces (by decide) n

end Text

/-- A placeholder shows nothing of the indentation. -/
theorem placeholder_indent (n : Nat) (t : Text) :
    placeholder (Text.indent n t) = placeholder t := by
  rw [placeholder, placeholder, Text.trimStart_indent]

/-- Spaces of whole levels add these levels to whatever the text begins with. -/
theorem Layout.level_indent (y : Layout) (k : Nat) (t : Text) :
    y.level (Text.indent (k * y.width) t) = k + y.level t := by
  have hwidth : 0 < y.width := Nat.lt_of_lt_of_le Nat.one_pos (Nat.le_max_right _ _)
  rw [level, level, Text.takeWhile_indent, List.length_append, List.length_replicate,
    Nat.add_comm (k * y.width), Nat.add_mul_div_right _ _ hwidth, Nat.add_comm]

/-- The lines of the second source are lines of the first, each of them behind `n` more spaces. Of
the lines of the first the second may lack some. -/
structure LineReader.Indents (n : Nat) (src src' : LineReader) : Prop where
  count_eq : src'.count = src.count
  text : ∀ i < src.count, ∀ t', src'.text? i = some t' →
    ∃ t, src.text? i = some t ∧ t' = Text.indent n t

namespace LineReader.Indents

variable {n : Nat} {src src' : LineReader} {r : LineRange} {i : Nat}

theorem of_map (hcount : src'.count = src.count)
    (htext : ∀ i < src.count, src'.text? i = (src.text? i).map (Text.indent n)) :
    src.Indents n src' := by
  refine ⟨hcount, ?_⟩
  intro i hi t' ht'
  rw [htext i hi, Option.map_eq_some_iff] at ht'
  obtain ⟨t, ht, heq⟩ := ht'
  exact ⟨t, ht, heq.symm⟩

theorem reaches (h : src.Indents n src') (hi : src'.Reaches r i) : src.Reaches r i := by
  obtain ⟨hfirst, hlast, hcount, htexts⟩ := hi
  rw [h.count_eq] at hcount
  refine ⟨hfirst, hlast, hcount, ?_⟩
  intro j hj hji
  obtain ⟨t', ht'⟩ := Option.isSome_iff_exists.1 (htexts j hj hji)
  obtain ⟨t, ht, -⟩ := h.text j (by omega) t' ht'
  rw [ht]
  rfl

/-- If the second source lacks no line, the same lines are read from both. -/
theorem reaches_of_full (h : src.Indents n src')
    (hfull : ∀ i < src.count, (src.text? i).isSome → (src'.text? i).isSome)
    (hi : src.Reaches r i) : src'.Reaches r i := by
  obtain ⟨hfirst, hlast, hcount, htexts⟩ := hi
  refine ⟨hfirst, hlast, by rw [h.count_eq]; exact hcount, ?_⟩
  intro j hj hji
  exact hfull j (by omega) (htexts j hj hji)

theorem exists_texts (h : src.Indents n src') (hi : src'.Reaches r i) :
    ∃ t, src.text? i = some t ∧ src'.text? i = some (Text.indent n t) := by
  obtain ⟨t', ht'⟩ := hi.exists_text
  have hcount := hi.2.2.1
  rw [h.count_eq] at hcount
  obtain ⟨t, ht, rfl⟩ := h.text i hcount t' ht'
  exact ⟨t, ht, ht'⟩

end LineReader.Indents

namespace Layout

variable {y : Layout} {k : Nat} {src src' : LineReader} {r : LineRange} {isComment : Nat → Bool}
  {b : Block} {i level : Nat}

/-- A line that is read stands in both sources or in none, in the second `k` levels deeper. -/
theorem standsAt_indents_iff (h : src.Indents (k * y.width) src') (hi : src'.Reaches r i) :
    y.StandsAt src' isComment i (k + level) ↔ y.StandsAt src isComment i level := by
  obtain ⟨t, ht, ht'⟩ := h.exists_texts hi
  simp only [StandsAt, ht, ht', Option.some.injEq, exists_eq_left', Text.all_isBlank_indent,
    y.level_indent, Nat.add_left_cancel_iff]

/-- The first line that stands at a level is the same in both sources, if the second has it. -/
theorem isLeast_closer_indents_iff {j m : Nat} (h : src.Indents (k * y.width) src')
    (hfirst : r.first ≤ j) (hm : src'.Reaches r m) :
    IsLeast {i | j ≤ i ∧ src'.Reaches r i ∧ y.StandsAt src' isComment i (k + level)} m ↔
      IsLeast {i | j ≤ i ∧ src.Reaches r i ∧ y.StandsAt src isComment i level} m := by
  constructor
  · rintro ⟨⟨hj, -, hstands⟩, hleast⟩
    refine ⟨⟨hj, h.reaches hm, (standsAt_indents_iff h hm).1 hstands⟩, ?_⟩
    rintro i ⟨hi, hreach, hstands⟩
    refine Nat.le_of_not_lt fun hlt => ?_
    -- in front of a line of the second source it has all lines of the range
    have hreach' : src'.Reaches r i := hm.of_le (by omega) (by omega)
    have hle := hleast ⟨hi, hreach', (standsAt_indents_iff h hreach').2 hstands⟩
    omega
  · rintro ⟨⟨hj, -, hstands⟩, hleast⟩
    refine ⟨⟨hj, hm, (standsAt_indents_iff h hm).2 hstands⟩, ?_⟩
    rintro i ⟨hi, hreach, hstands⟩
    exact hleast ⟨hi, h.reaches hreach, (standsAt_indents_iff h hreach).1 hstands⟩

theorem IsBlock.of_indents (hb : y.IsBlock src' r isComment b)
    (h : src.Indents (k * y.width) src') : y.IsBlock src r isComment b := by
  obtain ⟨t', next', ht', hnext', hopens, hdeep, hcloser, hph⟩ := hb.closes
  obtain ⟨t, ht, hindent⟩ := h.exists_texts hb.reaches
  obtain ⟨next, hnext, hnextIndent⟩ := h.exists_texts hb.reaches_next
  obtain rfl : t' = Text.indent (k * y.width) t := Option.some.inj (ht'.symm.trans hindent)
  obtain rfl : next' = Text.indent (k * y.width) next :=
    Option.some.inj (hnext'.symm.trans hnextIndent)
  rw [y.level_indent] at hopens hdeep hcloser
  rw [y.level_indent] at hdeep
  refine ⟨h.reaches hb.reaches, h.reaches hb.reaches_next, t, next, ht, hnext, ?_, ?_, ?_, ?_⟩
  · exact (standsAt_indents_iff h hb.reaches).1 hopens
  · omega
  · have hfirst := hb.reaches.1
    exact (isLeast_closer_indents_iff h (by omega) hb.reaches_end).1 hcloser
  · exact hph.trans (placeholder_indent _ t)

/-- A block of the first source is a block of the second if that has its last line. -/
theorem IsBlock.to_indents (hb : y.IsBlock src r isComment b)
    (h : src.Indents (k * y.width) src') (hend : src'.Reaches r b.endLine) :
    y.IsBlock src' r isComment b := by
  have hfirst := hb.reaches.1
  have htwo := hb.add_two_le
  have hreach : src'.Reaches r b.startLine := hend.of_le hfirst (by omega)
  have hreachNext : src'.Reaches r (b.startLine + 1) := hend.of_le (by omega) (by omega)
  obtain ⟨t, next, ht, hnext, hopens, hdeep, hcloser, hph⟩ := hb.closes
  obtain ⟨t₁, ht₁, hindent⟩ := h.exists_texts hreach
  obtain ⟨next₁, hnext₁, hnextIndent⟩ := h.exists_texts hreachNext
  obtain rfl : t₁ = t := Option.some.inj (ht₁.symm.trans ht)
  obtain rfl : next₁ = next := Option.some.inj (hnext₁.symm.trans hnext)
  refine ⟨hreach, hreachNext, _, _, hindent, hnextIndent, ?_, ?_, ?_, ?_⟩
  · rw [y.level_indent]
    exact (standsAt_indents_iff h hreach).2 hopens
  · rw [y.level_indent, y.level_indent]
    omega
  · rw [y.level_indent]
    exact (isLeast_closer_indents_iff h (by omega) hend).2 hcloser
  · exact hph.trans (placeholder_indent _ _).symm

/-- **Text that is indented further has the same blocks.** The lines of the second source are those
of the first, all of them `k` levels deeper. If the second source has every line that the first one
has, as a source does that has a text for each of its lines, both have the same blocks, with the
same lines and placeholders, in every range. If it lacks lines, it has those blocks of the first
whose last line is still read. -/
theorem blocks_of_indents (y : Layout) (k : Nat) (src src' : LineReader) (r : LineRange)
    (isComment : Nat → Bool) (h : src.Indents (k * y.width) src') :
    ((∀ i < src.count, (src.text? i).isSome → (src'.text? i).isSome) →
      y.blocks src' r isComment = y.blocks src r isComment) ∧
    ∀ b, b ∈ y.blocks src' r isComment ↔
      b ∈ y.blocks src r isComment ∧ src'.Reaches r b.endLine := by
  have hmem : ∀ b, b ∈ y.blocks src' r isComment ↔
      b ∈ y.blocks src r isComment ∧ src'.Reaches r b.endLine := by
    intro b
    rw [mem_blocks_iff, mem_blocks_iff]
    constructor
    · intro hb
      exact ⟨hb.of_indents h, hb.reaches_end⟩
    · rintro ⟨hb, hend⟩
      exact hb.to_indents h hend
  refine ⟨?_, hmem⟩
  intro hfull
  apply eq_of_mem_iff (pairwise_blocks y src' r isComment) (pairwise_blocks y src r isComment)
  intro b
  rw [hmem, and_iff_left_iff_imp]
  intro hb
  exact h.reaches_of_full hfull (mem_blocks_iff.1 hb).reaches_end

/-- Tabs, a blank line behind an opener and a line of nothing, two levels of three deeper. -/
theorem blocks_of_indents_of_tabs :
    let y : Layout := { tabSize := 3 }
    let src := LineReader.ofText " a.é()\n    \n\t\tb\n\n  c\n\td".toList
    let src' := LineReader.ofText
      "       a.é()\n          \n      \t\tb\n      \n        c\n      \td".toList
    src.Indents (2 * y.width) src' ∧
      y.blocks src' ⟨0, 9⟩ (fun _ => false) = [⟨0, 2, ".é...".toList⟩] := by
  intro y src src'
  have h : src.Indents (2 * y.width) src' :=
    LineReader.Indents.of_map (by decide +kernel) (by decide +kernel)
  have hblocks : y.blocks src ⟨0, 9⟩ (fun _ => false) = [⟨0, 2, ".é...".toList⟩] := by
    decide +kernel
  refine ⟨h, ?_⟩
  rw [← hblocks]
  exact (blocks_of_indents y 2 src src' ⟨0, 9⟩ (fun _ => false) h).1 (by decide +kernel)

/-- A block is lost if the second source lacks the line that closes it. -/
theorem blocks_lost_with_last_line :
    let lines : List Text := ["f".toList, "    a".toList, "    b".toList, "z".toList]
    let src := LineReader.measured 4 (lines[·]?) ([0, 2, 8, 14][·]?)
    let src' := LineReader.measured 4
      (fun i => if i < 3 then lines[i]?.map (Text.indent 4) else none) ([0, 6, 16][·]?)
    src'.count = src.count ∧ src.Indents (1 * Layout.width {}) src' ∧
      Layout.blocks {} src ⟨0, 3⟩ (fun _ => false) = [⟨0, 3, "f...".toList⟩] ∧
      Layout.blocks {} src' ⟨0, 3⟩ (fun _ => false) = [] := by
  intro lines src src'
  refine ⟨rfl, ⟨rfl, fun i _ t' ht' => ?_⟩, by decide +kernel, by decide +kernel⟩
  obtain ⟨-, hline⟩ := Option.ite_none_right_eq_some.1 ht'
  obtain ⟨t, ht, heq⟩ := Option.map_eq_some_iff.1 hline
  exact ⟨t, ht, heq.symm⟩

end Layout

end CodeFolding
