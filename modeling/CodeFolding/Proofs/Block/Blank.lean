import CodeFolding.Proofs.Block.Local
/-!
# What blank lines decide

A blank line neither opens nor closes a block, but the line behind an opener counts with its leading
spaces whatever it holds. So the blanks of a blank line decide whether the line in front of it opens
a block, and nothing else. Main statement: `blocks_of_agreeOffBlanks`.
-/
namespace CodeFolding

/-- Two sources differ in nothing but the blanks of blank lines. -/
structure LineReader.AgreeOffBlanks (src src' : LineReader) : Prop where
  count_eq : src.count = src'.count
  /-- A line has one content in both, or it is blank in both. -/
  text : ∀ i, src.text? i = src'.text? i ∨
    ∃ t t', src.text? i = some t ∧ src'.text? i = some t' ∧
      t.all isBlank = true ∧ t'.all isBlank = true

namespace LineReader.AgreeOffBlanks

variable {src src' : LineReader} {r : LineRange} {i : Nat}

theorem symm (h : src.AgreeOffBlanks src') : src'.AgreeOffBlanks src := by
  refine ⟨h.count_eq.symm, fun i => ?_⟩
  rcases h.text i with heq | ⟨t, t', ht, ht', hblank, hblank'⟩
  · exact Or.inl heq.symm
  · exact Or.inr ⟨t', t, ht', ht, hblank', hblank⟩

theorem isSome_text?_eq (h : src.AgreeOffBlanks src') (i : Nat) :
    (src.text? i).isSome = (src'.text? i).isSome := by
  rcases h.text i with heq | ⟨t, t', ht, ht', -, -⟩
  · rw [heq]
  · rw [ht, ht']
    rfl

/-- The same lines are read from both. -/
theorem reaches_iff (h : src.AgreeOffBlanks src') : src.Reaches r i ↔ src'.Reaches r i := by
  unfold LineReader.Reaches
  simp only [h.count_eq, h.isSome_text?_eq]

theorem text?_eq_some (h : src.AgreeOffBlanks src') {t : Text} (ht : src.text? i = some t)
    (hblank : t.all isBlank = false) : src'.text? i = some t := by
  rcases h.text i with heq | ⟨u, -, hu, -, hublank, -⟩
  · rw [← heq, ht]
  · rw [ht] at hu
    obtain rfl := Option.some.inj hu
    rw [hblank] at hublank
    cases hublank

/-- Two texts with as many lines, each of which is the same in both or blank in both. -/
theorem of_ofText {t t' : Text}
    (hcount : (LineReader.ofText t).count = (LineReader.ofText t').count)
    (hlines : ∀ i < (LineReader.ofText t).count,
      (LineReader.ofText t).text? i = (LineReader.ofText t').text? i ∨
        ((LineReader.ofText t).text? i).all (·.all isBlank) = true ∧
          ((LineReader.ofText t').text? i).all (·.all isBlank) = true) :
    (LineReader.ofText t).AgreeOffBlanks (LineReader.ofText t') := by
  refine ⟨hcount, fun i => ?_⟩
  by_cases hi : i < (LineReader.ofText t).count
  · rcases hlines i hi with heq | ⟨hblank, hblank'⟩
    · exact Or.inl heq
    · obtain ⟨u, hu⟩ := Option.isSome_iff_exists.1 (isSome_text?_ofText.2 hi)
      obtain ⟨u', hu'⟩ := Option.isSome_iff_exists.1 (isSome_text?_ofText.2 (hcount ▸ hi))
      rw [hu] at hblank
      rw [hu'] at hblank'
      exact Or.inr ⟨u, u', hu, hu', hblank, hblank'⟩
  · have hnone : (LineReader.ofText t).text? i = none := by
      simpa using mt isSome_text?_ofText.1 hi
    have hnone' : (LineReader.ofText t').text? i = none := by
      simpa using mt isSome_text?_ofText.1 (hcount ▸ hi)
    exact Or.inl (hnone.trans hnone'.symm)

end LineReader.AgreeOffBlanks

namespace Layout

variable {y : Layout} {src src' : LineReader} {r : LineRange} {isComment : Nat → Bool} {b : Block}
  {i level : Nat}

/-- The line behind line `i` has more leading spaces, by a level at least. -/
def Deepens (y : Layout) (src : LineReader) (i : Nat) : Prop :=
  ∃ t next, src.text? i = some t ∧ src.text? (i + 1) = some next ∧ y.level t < y.level next

theorem StandsAt.text?_eq_some {t : Text} (hi : y.StandsAt src isComment i level)
    (h : src.AgreeOffBlanks src') (ht : src.text? i = some t) : src'.text? i = some t := by
  obtain ⟨-, u, hu, hblank, -⟩ := hi
  rw [ht] at hu
  obtain rfl := Option.some.inj hu
  exact h.text?_eq_some ht hblank

/-- The same lines stand in both, at the same levels. -/
theorem StandsAt.of_agreeOffBlanks (hi : y.StandsAt src isComment i level)
    (h : src.AgreeOffBlanks src') : y.StandsAt src' isComment i level := by
  obtain ⟨hcomment, t, ht, hblank, hlevel⟩ := hi
  exact ⟨hcomment, t, h.text?_eq_some ht hblank, hblank, hlevel⟩

theorem IsBlock.deepens (h : y.IsBlock src r isComment b) : y.Deepens src b.startLine := by
  obtain ⟨t, next, ht, hnext, -, hdeep, -, -⟩ := h.closes
  exact ⟨t, next, ht, hnext, hdeep⟩

/-- **A block of one source is a block of the other if its second line is indented deeper there,
too.** Its first and its last line are the same, and so are the lines that might have closed it. -/
theorem IsBlock.of_agreeOffBlanks (hb : y.IsBlock src r isComment b)
    (h : src.AgreeOffBlanks src') (hdeep : y.Deepens src' b.startLine) :
    y.IsBlock src' r isComment b := by
  obtain ⟨t, -, ht, -, hopens, -, ⟨⟨hbelow, hreach, hcloses⟩, hleast⟩, hph⟩ := hb.closes
  obtain ⟨t', next, ht', hnext, hdeep⟩ := hdeep
  -- the opener is not blank, so it is one line in both; the closer and its rivals are, too
  obtain rfl : t' = t := by
    rw [hopens.text?_eq_some h ht] at ht'
    exact (Option.some.inj ht').symm
  refine ⟨h.reaches_iff.1 hb.reaches, h.reaches_iff.1 hb.reaches_next, t', next, ht', hnext,
    hopens.of_agreeOffBlanks h, hdeep, ⟨?_, ?_⟩, hph⟩
  · exact ⟨hbelow, h.reaches_iff.1 hreach, hcloses.of_agreeOffBlanks h⟩
  · intro i hi
    obtain ⟨hi, hreach, hstands⟩ := hi
    apply hleast
    exact ⟨hi, h.reaches_iff.2 hreach, hstands.of_agreeOffBlanks h.symm⟩

theorem mem_blocks_iff_deepens (h : src.AgreeOffBlanks src')
    (hb : b ∈ y.blocks src r isComment) :
    b ∈ y.blocks src' r isComment ↔ y.Deepens src' b.startLine := by
  constructor
  · intro hb'
    exact (mem_blocks_iff.1 hb').deepens
  · intro hdeep
    exact mem_blocks_iff.2 ((mem_blocks_iff.1 hb).of_agreeOffBlanks h hdeep)

theorem mem_blocks_of_second_eq (h : src.AgreeOffBlanks src')
    (hsecond : src.text? (b.startLine + 1) = src'.text? (b.startLine + 1))
    (hb : b ∈ y.blocks src r isComment) : b ∈ y.blocks src' r isComment := by
  apply (mem_blocks_iff_deepens h hb).2
  obtain ⟨t, next, ht, hnext, hopens, hdeep, -, -⟩ := (mem_blocks_iff.1 hb).closes
  exact ⟨t, next, hopens.text?_eq_some h ht, hsecond ▸ hnext, hdeep⟩

/-- **What blank lines decide.** Two sources differ in the blanks of blank lines. No block opens or
closes on a blank line. A block whose second line is the same in both is in both. A block of the one
whose second line differs is in the other just if its second line is indented deeper there. So the
blocks are the same just if behind all their openers the line is indented deeper in both. -/
theorem blocks_of_agreeOffBlanks (y : Layout) (src src' : LineReader) (r : LineRange)
    (isComment : Nat → Bool) (h : src.AgreeOffBlanks src') :
    let blocks := y.blocks src r isComment
    let blocks' := y.blocks src' r isComment
    (∀ b ∈ blocks, ∃ level, y.StandsAt src isComment b.startLine level ∧
      y.StandsAt src isComment b.endLine level) ∧
    (∀ b, src.text? (b.startLine + 1) = src'.text? (b.startLine + 1) →
      (b ∈ blocks ↔ b ∈ blocks')) ∧
    (∀ b ∈ blocks, b ∈ blocks' ↔ y.Deepens src' b.startLine) ∧
    (blocks = blocks' ↔ (∀ b ∈ blocks, y.Deepens src' b.startLine) ∧
      ∀ b ∈ blocks', y.Deepens src b.startLine) := by
  intro blocks blocks'
  refine ⟨?_, ?_, ?_, ?_⟩
  · intro b hb
    exact (mem_blocks_iff.1 hb).standsAt
  · intro b hsecond
    constructor
    · intro hb
      exact mem_blocks_of_second_eq h hsecond hb
    · intro hb
      exact mem_blocks_of_second_eq h.symm hsecond.symm hb
  · intro b hb
    exact mem_blocks_iff_deepens h hb
  · constructor
    · intro heq
      constructor
      · intro b hb
        have hb' : b ∈ blocks' := heq ▸ hb
        exact (mem_blocks_iff_deepens h hb).1 hb'
      · intro b hb
        have hb' : b ∈ blocks := heq ▸ hb
        exact (mem_blocks_iff_deepens h.symm hb).1 hb'
    · rintro ⟨hdeep, hdeep'⟩
      apply eq_of_mem_iff (pairwise_blocks y src r isComment) (pairwise_blocks y src' r isComment)
      intro b
      constructor
      · intro hb
        exact (mem_blocks_iff_deepens h hb).2 (hdeep b hb)
      · intro hb
        exact (mem_blocks_iff_deepens h.symm hb).2 (hdeep' b hb)

/-- The blank line behind the opener gets deeper still, the other one gets spaces: nothing changes. -/
theorem blocks_of_agreeOffBlanks_of_deep :
    let y : Layout := {}
    let src := LineReader.ofText "a\n    \n    b\n\na".toList
    let src' := LineReader.ofText "a\n         \n    b\n  \na".toList
    src.AgreeOffBlanks src' ∧
      y.blocks src ⟨0, 4⟩ (fun _ => false) = y.blocks src' ⟨0, 4⟩ fun _ => false := by
  intro y src src'
  have h : src.AgreeOffBlanks src' :=
    LineReader.AgreeOffBlanks.of_ofText (by decide +kernel) (by decide +kernel)
  have hblocks : y.blocks src ⟨0, 4⟩ (fun _ => false) = [⟨0, 4, "a...".toList⟩] := by
    decide +kernel
  have hblocks' : y.blocks src' ⟨0, 4⟩ (fun _ => false) = [⟨0, 4, "a...".toList⟩] := by
    decide +kernel
  refine ⟨h, (blocks_of_agreeOffBlanks y src src' ⟨0, 4⟩ (fun _ => false) h).2.2.2.2 ⟨?_, ?_⟩⟩
  · intro b hb
    rw [hblocks, List.mem_singleton] at hb
    subst hb
    exact ⟨"a".toList, "         ".toList, by decide +kernel⟩
  · intro b hb
    rw [hblocks', List.mem_singleton] at hb
    subst hb
    exact ⟨"a".toList, "    ".toList, by decide +kernel⟩

/-- The blanks of a blank line behind an opener make a block: without them there is none. -/
theorem blocks_lost_with_blanks :
    let src := LineReader.ofText "a\n    \na".toList
    let src' := LineReader.ofText "a\n\na".toList
    src.AgreeOffBlanks src' ∧
      Layout.blocks {} src ⟨0, 2⟩ (fun _ => false) ≠
        Layout.blocks {} src' ⟨0, 2⟩ fun _ => false := by
  intro src src'
  refine ⟨LineReader.AgreeOffBlanks.of_ofText (by decide +kernel) (by decide +kernel), ?_⟩
  decide +kernel

end Layout

end CodeFolding
