import CodeFolding.Proofs.Block.Local
/-!
# How blocks lie in one another

The search for a closer looks for the level of the opener and passes over the lines of every other
level, the deeper ones and those that are indented less. So a block may hold lines that are not
part of its body, and two blocks may cross. Main statements: between the first and the last line of
a block nothing stands at the level of the opener (`IsBlock.level_ne`), and two blocks are nested,
disjoint or share a line, unless one of them holds a line that is indented less than its opener
(`blocks_nest`). And no line opens or closes two blocks, and blocks of one level do not meet but at
their ends (`blocks_share_no_end`).
-/
namespace CodeFolding.Layout

variable {y : Layout} {src : LineReader} {r : LineRange} {isComment : Nat → Bool} {b c : Block}
  {i j k : Nat}

theorem StandsAt.level_unique (h : y.StandsAt src isComment i j) (h' : y.StandsAt src isComment i k) :
    j = k := by
  obtain ⟨-, t, ht, -, rfl⟩ := h
  obtain ⟨-, u, hu, -, rfl⟩ := h'
  rw [ht] at hu
  rw [Option.some.inj hu]

/-- Line `i` lies between the first and the last line of a block, and stands with less indentation
than its opener. -/
def DipsAt (y : Layout) (src : LineReader) (isComment : Nat → Bool) (b : Block) (i : Nat) : Prop :=
  b.startLine < i ∧ i < b.endLine ∧ ∃ level less, y.StandsAt src isComment b.startLine level ∧
    y.StandsAt src isComment i less ∧ less < level

theorem IsBlock.exists_next (h : y.IsBlock src r isComment b)
    (hopens : y.StandsAt src isComment b.startLine j) :
    ∃ t, src.text? (b.startLine + 1) = some t ∧ j < y.level t := by
  obtain ⟨t, next, -, hnext, hstand, hdeep, -, -⟩ := h.closes
  exact ⟨next, hnext, hopens.level_unique hstand ▸ hdeep⟩

/-- **No line inside a block stands at the level of its opener.** -/
theorem IsBlock.level_ne (h : y.IsBlock src r isComment b)
    (hopens : y.StandsAt src isComment b.startLine j) (hfirst : b.startLine < i)
    (hlast : i < b.endLine) (hi : y.StandsAt src isComment i k) : j ≠ k := by
  rintro rfl
  by_cases hnext : i = b.startLine + 1
  · -- the second line is indented deeper
    obtain ⟨t, ht, hdeep⟩ := h.exists_next hopens
    obtain ⟨-, u, hu, -, hlevel⟩ := hi
    rw [hnext, ht] at hu
    obtain rfl := Option.some.inj hu
    omega
  · -- a line further down would have been the closer
    have hreach : src.Reaches r i :=
      h.reaches_end.of_le (Nat.le_trans h.reaches.1 (Nat.le_of_lt hfirst)) (Nat.le_of_lt hlast)
    obtain ⟨t, _, _, _, hstand, _, hleast, _⟩ := h.closes
    have := hleast.2 ⟨by omega, hreach, hopens.level_unique hstand ▸ hi⟩
    omega

/-- A line inside a block is indented deeper than the opener, or dips below it. -/
theorem IsBlock.lt_or_dipsAt (h : y.IsBlock src r isComment b)
    (hopens : y.StandsAt src isComment b.startLine j) (hfirst : b.startLine < i)
    (hlast : i < b.endLine) (hi : y.StandsAt src isComment i k) :
    j < k ∨ y.DipsAt src isComment b i := by
  rcases Nat.lt_or_gt_of_ne (h.level_ne hopens hfirst hlast hi) with hlt | hgt
  · exact Or.inl hlt
  · exact Or.inr ⟨hfirst, hlast, j, k, hopens, hi, hgt⟩

theorem IsBlock.endLine_ne (hb : y.IsBlock src r isComment b) (hc : y.IsBlock src r isComment c)
    (h : b.startLine < c.startLine) (hin : c.startLine < b.endLine) : c.endLine ≠ b.endLine := by
  intro heq
  obtain ⟨j, hbopens, hbcloses⟩ := hb.standsAt
  obtain ⟨k, hcopens, hccloses⟩ := hc.standsAt
  rw [heq] at hccloses
  exact hb.level_ne hbopens h hin hcopens (hbcloses.level_unique hccloses)

/-- **Where two blocks cross, one of them dips:** the second opens below the opener of the first, or
the first closes below the opener of the second. -/
theorem IsBlock.dipsAt_of_cross (hb : y.IsBlock src r isComment b)
    (hc : y.IsBlock src r isComment c) (hopen : b.startLine < c.startLine)
    (hin : c.startLine < b.endLine) (hclose : b.endLine < c.endLine) :
    y.DipsAt src isComment b c.startLine ∨ y.DipsAt src isComment c b.endLine := by
  obtain ⟨j, hbopens, hbcloses⟩ := hb.standsAt
  obtain ⟨k, hcopens, -⟩ := hc.standsAt
  rcases hb.lt_or_dipsAt hbopens hopen hin hcopens with hlt | hdip
  · exact Or.inr ⟨hin, hclose, k, j, hcopens, hbcloses, hlt⟩
  · exact Or.inl hdip

/-- **Blocks nest, up to lines that dip.** In a block the line behind the opener is indented deeper,
and every line that stands is indented deeper or dips below the opener. Of two blocks the second
begins where the first has ended or on its last line, or it ends inside the first, or they cross and
one of them dips there. -/
theorem blocks_nest (y : Layout) (src : LineReader) (r : LineRange) (isComment : Nat → Bool) :
    (∀ b ∈ y.blocks src r isComment, ∃ level, y.StandsAt src isComment b.startLine level ∧
      (∃ t, src.text? (b.startLine + 1) = some t ∧ level < y.level t) ∧
      ∀ i k, b.startLine < i → i < b.endLine → y.StandsAt src isComment i k →
        level < k ∨ y.DipsAt src isComment b i) ∧
    ∀ b ∈ y.blocks src r isComment, ∀ c ∈ y.blocks src r isComment, b.startLine < c.startLine →
      b.endLine ≤ c.startLine ∨ c.endLine < b.endLine ∨
        (c.startLine < b.endLine ∧ b.endLine < c.endLine ∧
          (y.DipsAt src isComment b c.startLine ∨ y.DipsAt src isComment c b.endLine)) := by
  constructor
  · intro b hb
    have hb := mem_blocks_iff.1 hb
    obtain ⟨level, hopens, -⟩ := hb.standsAt
    exact ⟨level, hopens, hb.exists_next hopens,
      fun i k hfirst hlast hi => hb.lt_or_dipsAt hopens hfirst hlast hi⟩
  · intro b hb c hc hopen
    have hb := mem_blocks_iff.1 hb
    have hc := mem_blocks_iff.1 hc
    rcases Nat.lt_or_ge c.startLine b.endLine with hin | hout
    · rcases Nat.lt_or_gt_of_ne (hb.endLine_ne hc hopen hin) with hnested | hcross
      · exact Or.inr (Or.inl hnested)
      · exact Or.inr (Or.inr ⟨hin, hcross, hb.dipsAt_of_cross hc hopen hin hcross⟩)
    · exact Or.inl hout

/-- The first block of the source below dips at the opener of the second. -/
theorem blocks_nest_of_dip :
    let src := LineReader.ofText "    a\n        b\nc\n    d\ne".toList
    DipsAt {} src (fun _ => false) ⟨0, 3, "a...".toList⟩ 2 ∨
      DipsAt {} src (fun _ => false) ⟨2, 4, "c...".toList⟩ 3 := by
  intro src
  have hblocks : Layout.blocks {} src ⟨0, 4⟩ (fun _ => false) =
      [⟨0, 3, "a...".toList⟩, ⟨2, 4, "c...".toList⟩] := by decide +kernel
  have hcross := (blocks_nest {} src ⟨0, 4⟩ fun _ => false).2 ⟨0, 3, "a...".toList⟩
    (by simp [hblocks]) ⟨2, 4, "c...".toList⟩ (by simp [hblocks]) (by decide)
  simpa using hcross

/-- Text that dips below an opener and comes back to its level is part of the block: here the line
of `c` is part of a block whose opener is indented deeper, and the block that `c` opens crosses it. -/
theorem blocks_cross_of_dip :
    let src := LineReader.ofText "    a\n        b\nc\n    d\ne".toList
    let blocks := Layout.blocks {} src ⟨0, 4⟩ fun _ => false
    (¬ ∀ b ∈ blocks, ∀ i level k, StandsAt {} src (fun _ => false) b.startLine level →
      b.startLine < i → i < b.endLine → StandsAt {} src (fun _ => false) i k → level < k) ∧
    ¬ ∀ b ∈ blocks, ∀ c ∈ blocks, b.startLine < c.startLine →
      b.endLine ≤ c.startLine ∨ c.endLine ≤ b.endLine := by
  intro src blocks
  have hblocks : blocks = [⟨0, 3, "a...".toList⟩, ⟨2, 4, "c...".toList⟩] := by decide +kernel
  have ha : StandsAt {} src (fun _ => false) 0 1 := ⟨rfl, "    a".toList, by decide +kernel⟩
  have hc : StandsAt {} src (fun _ => false) 2 0 := ⟨rfl, "c".toList, by decide +kernel⟩
  constructor
  · intro hdeep
    have := hdeep ⟨0, 3, "a...".toList⟩ (by simp [hblocks]) 2 1 0 ha (by decide) (by decide) hc
    omega
  · intro hnest
    have := hnest ⟨0, 3, "a...".toList⟩ (by simp [hblocks]) ⟨2, 4, "c...".toList⟩
      (by simp [hblocks]) (by decide)
    simp at this

/-! ## Blocks of one level -/

/-- Of two blocks whose openers stand at one level the first has ended where the second begins. -/
theorem IsBlock.endLine_le_of_level_eq (hb : y.IsBlock src r isComment b)
    (hopen : b.startLine < c.startLine) (hbopens : y.StandsAt src isComment b.startLine j)
    (hcopens : y.StandsAt src isComment c.startLine j) : b.endLine ≤ c.startLine := by
  apply Nat.le_of_not_lt
  intro hin
  exact hb.level_ne hbopens hopen hin hcopens rfl

/-- **No line closes two blocks.** -/
theorem pairwise_endLine_blocks (y : Layout) (src : LineReader) (r : LineRange)
    (isComment : Nat → Bool) :
    (y.blocks src r isComment).Pairwise fun b c => b.endLine ≠ c.endLine := by
  refine (pairwise_blocks y src r isComment).imp_of_mem ?_
  intro b c hb hc hopen
  have hb := mem_blocks_iff.1 hb
  have hc := mem_blocks_iff.1 hc
  by_cases hin : c.startLine < b.endLine
  · exact (hb.endLine_ne hc hopen hin).symm
  · have := hc.add_two_le
    omega

/-- **Every line opens at most one block and closes at most one, and blocks of one level do not meet
but at their ends.** -/
theorem blocks_share_no_end (y : Layout) (src : LineReader) (r : LineRange)
    (isComment : Nat → Bool) :
    let blocks := y.blocks src r isComment
    (blocks.map Block.startLine).Nodup ∧ (blocks.map Block.endLine).Nodup ∧
      ∀ b ∈ blocks, ∀ c ∈ blocks, b ≠ c → ∀ t u, src.text? b.startLine = some t →
        src.text? c.startLine = some u → y.level t = y.level u →
        b.endLine ≤ c.startLine ∨ c.endLine ≤ b.startLine := by
  intro blocks
  have hstarts : (blocks.map Block.startLine).Nodup :=
    List.pairwise_map.2 ((pairwise_blocks y src r isComment).imp Nat.ne_of_lt)
  refine ⟨hstarts, ?_, ?_⟩
  · exact List.pairwise_map.2 (pairwise_endLine_blocks y src r isComment)
  · intro b hb c hc hne t u ht hu hlevel
    have hbblock := mem_blocks_iff.1 hb
    have hcblock := mem_blocks_iff.1 hc
    obtain ⟨j, hbopens, -⟩ := hbblock.standsAt
    obtain ⟨k, hcopens, -⟩ := hcblock.standsAt
    have hjk : j = k := by
      obtain ⟨-, _, ht', -, rfl⟩ := hbopens
      obtain ⟨-, _, hu', -, rfl⟩ := hcopens
      simp_all
    subst hjk
    rcases Nat.lt_trichotomy b.startLine c.startLine with hlt | heq | hgt
    · exact Or.inl (hbblock.endLine_le_of_level_eq hlt hbopens hcopens)
    · exact absurd (List.inj_on_of_nodup_map hstarts hb hc heq) hne
    · exact Or.inr (hcblock.endLine_le_of_level_eq hgt hcopens hbopens)

/-- Two blocks of one level that share a line, with a block inside the second. -/
theorem blocks_share_no_end_of_three :
    let y : Layout := {}
    let src := LineReader.ofText "a\n    b\nc\n    d\n        e\n    f\ng".toList
    let blocks := y.blocks src ⟨0, 6⟩ fun _ => false
    let b : Block := ⟨0, 2, "a...".toList⟩
    let c : Block := ⟨2, 6, "c...".toList⟩
    b ∈ blocks ∧ c ∈ blocks ∧ b ≠ c ∧ src.text? b.startLine = some "a".toList ∧
      src.text? c.startLine = some "c".toList ∧ y.level "a".toList = y.level "c".toList ∧
      (b.endLine ≤ c.startLine ∨ c.endLine ≤ b.startLine) := by
  intro y src blocks b c
  have hblocks : blocks = [b, c, ⟨3, 5, "d...".toList⟩] := by decide +kernel
  have hb : b ∈ blocks := by rw [hblocks]; simp
  have hc : c ∈ blocks := by rw [hblocks]; simp
  have hne : b ≠ c := by decide
  have hbtext : src.text? b.startLine = some "a".toList := by decide +kernel
  have hctext : src.text? c.startLine = some "c".toList := by decide +kernel
  have hlevel : y.level "a".toList = y.level "c".toList := by decide
  exact ⟨hb, hc, hne, hbtext, hctext, hlevel,
    (blocks_share_no_end y src ⟨0, 6⟩ fun _ => false).2.2 b hb c hc hne _ _ hbtext hctext
      hlevel⟩

end CodeFolding.Layout
