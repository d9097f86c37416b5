import CodeFolding.Marker
import CodeFolding.Proofs.Block.Search
import CodeFolding.Proofs.Marker
import Mathlib.Data.List.Sort
/-!
# Blocks in a part of the lines

Whether two lines make a block depends on the lines from the one to the other and on no line
outside them. So a search in a part of a source finds those blocks of the whole source that lie in
the part. Main statements: `blocks_eq_filter`, for two ranges of which one holds the lines of the
other, and `blocks_local`, with what it means for markers and for ranges that grow.
-/
namespace CodeFolding

namespace LineRange

/-- Whether all lines from `first` to `last` belong to the range. -/
def encloses (r : LineRange) (first last : Nat) : Bool := r.first ≤ first && last ≤ r.last

theorem encloses_iff {r : LineRange} {first last : Nat} :
    r.encloses first last = true ↔ r.first ≤ first ∧ last ≤ r.last := by
  simp [encloses]

theorem contains_iff {r : LineRange} {line : Nat} :
    r.contains line = true ↔ r.first ≤ line ∧ line ≤ r.last := by
  simp [contains]

/-- The lines of every source: no line has a greater number. -/
def everything : LineRange := ⟨0, UInt64.size - 1⟩

end LineRange

namespace LineReader

variable {src : LineReader} {r : LineRange} {i j : Nat}

/-- A source that knows the content of all its lines. -/
def IsFull (src : LineReader) : Prop := ∀ i < src.count, (src.text? i).isSome

theorem isSome_text?_ofText {t : Text} :
    ((ofText t).text? i).isSome = true ↔ i < (ofText t).count := by
  simp [ofText, ofLines]

theorem isFull_ofText (t : Text) : (ofText t).IsFull := by
  intro i hi
  exact isSome_text?_ofText.2 hi

theorem IsFull.reaches_iff (h : src.IsFull) :
    src.Reaches r i ↔ r.contains i = true ∧ i < src.count := by
  rw [LineRange.contains_iff]
  constructor
  · rintro ⟨hfirst, hlast, hcount, -⟩
    exact ⟨⟨hfirst, hlast⟩, hcount⟩
  · rintro ⟨⟨hfirst, hlast⟩, hcount⟩
    exact ⟨hfirst, hlast, hcount, fun j _ hj => h j (by omega)⟩

theorem Reaches.of_le (h : src.Reaches r j) (hfirst : r.first ≤ i) (hle : i ≤ j) :
    src.Reaches r i := by
  obtain ⟨-, hlast, hcount, htexts⟩ := h
  exact ⟨hfirst, by omega, by omega, fun k hk hki => htexts k hk (by omega)⟩

end LineReader

namespace Layout

variable {y : Layout} {src : LineReader} {r r' : LineRange} {isComment : Nat → Bool} {b : Block}

theorem IsBlock.reaches_end (h : y.IsBlock src r isComment b) : src.Reaches r b.endLine := by
  obtain ⟨_, _, _, _, _, _, hleast, _⟩ := h.closes
  exact hleast.1.2.1

theorem IsBlock.add_two_le (h : y.IsBlock src r isComment b) : b.startLine + 2 ≤ b.endLine := by
  obtain ⟨_, _, _, _, _, _, hleast, _⟩ := h.closes
  exact hleast.1.1

/-- The first and the last line of a block have content that is not all blank, are no comments and
are indented alike. -/
theorem IsBlock.standsAt (h : y.IsBlock src r isComment b) :
    ∃ level, y.StandsAt src isComment b.startLine level ∧
      y.StandsAt src isComment b.endLine level := by
  obtain ⟨t, _, _, _, hstand, _, hleast, _⟩ := h.closes
  exact ⟨y.level t, hstand, hleast.1.2.2⟩

theorem IsBlock.encloses (h : y.IsBlock src r isComment b) :
    r.encloses b.startLine b.endLine = true :=
  LineRange.encloses_iff.2 ⟨h.reaches.1, h.reaches_end.2.1⟩

/-- A block of a full source is a block in every range that holds its lines. -/
theorem IsBlock.of_encloses (hfull : src.IsFull) (h : y.IsBlock src r isComment b)
    (hin : r'.encloses b.startLine b.endLine = true) : y.IsBlock src r' isComment b := by
  have hlow := LineRange.encloses_iff.1 h.encloses
  have hhigh := LineRange.encloses_iff.1 hin
  have htwo := h.add_two_le
  have hcount := (hfull.reaches_iff.1 h.reaches_end).2
  obtain ⟨t, next, ht, hnext, hstand, hdeep, ⟨⟨hbelow, -, hcloses⟩, hleast⟩, hph⟩ := h.closes
  -- the lines of the block belong to both ranges
  have hboth : ∀ i, b.startLine ≤ i → i ≤ b.endLine → src.Reaches r i ∧ src.Reaches r' i := by
    intro i hfirst hlast
    rw [hfull.reaches_iff, hfull.reaches_iff, LineRange.contains_iff, LineRange.contains_iff]
    omega
  refine ⟨(hboth _ (by omega) (by omega)).2, (hboth _ (by omega) (by omega)).2, t, next, ht,
    hnext, hstand, hdeep, ⟨⟨hbelow, (hboth _ (by omega) (by omega)).2, hcloses⟩, ?_⟩, hph⟩
  rintro i ⟨hi, -, histands⟩
  refine Nat.le_of_not_lt fun hlt => ?_
  have := hleast ⟨hi, (hboth i (by omega) (by omega)).1, histands⟩
  omega

theorem eq_of_mem_iff {bs cs : List Block} (hb : bs.Pairwise fun b c => b.startLine < c.startLine)
    (hc : cs.Pairwise fun b c => b.startLine < c.startLine) (h : ∀ b, b ∈ bs ↔ b ∈ cs) :
    bs = cs := by
  have : Std.Irrefl fun b c : Block => b.startLine < c.startLine := ⟨fun _ => Nat.lt_irrefl _⟩
  have : Std.Antisymm fun b c : Block => b.startLine < c.startLine :=
    ⟨fun _ _ hlt hgt => absurd hgt (Nat.lt_asymm hlt)⟩
  exact hb.eq_of_mem_iff hc h

/-- **A search in a part of the lines finds the blocks that lie in the part**, in the order in
which a search in more lines finds them. -/
theorem blocks_eq_filter (hfull : src.IsFull)
    (h : ∀ i < src.count, r'.contains i = true → r.contains i = true) :
    y.blocks src r' isComment =
      (y.blocks src r isComment).filter fun b => r'.encloses b.startLine b.endLine := by
  refine eq_of_mem_iff (pairwise_blocks y src r' isComment)
    ((pairwise_blocks y src r isComment).filter _) fun b => ?_
  rw [List.mem_filter, mem_blocks_iff, mem_blocks_iff]
  constructor
  · intro hb
    have hfirst := hfull.reaches_iff.1 hb.reaches
    have hlast := hfull.reaches_iff.1 hb.reaches_end
    refine ⟨hb.of_encloses hfull (LineRange.encloses_iff.2 ?_), hb.encloses⟩
    exact ⟨(LineRange.contains_iff.1 (h _ hfirst.2 hfirst.1)).1,
      (LineRange.contains_iff.1 (h _ hlast.2 hlast.1)).2⟩
  · rintro ⟨hb, hin⟩
    exact hb.of_encloses hfull hin

/-- Lines that are blank or comments add no block. -/
theorem blocks_eq_of_excluded (hfull : src.IsFull) (hfirst : r'.first ≤ r.first)
    (hlast : r.last ≤ r'.last)
    (h : ∀ i, r'.contains i = true → r.contains i = false → ∀ t, src.text? i = some t →
      isComment i = true ∨ t.all isBlank = true) :
    y.blocks src r' isComment = y.blocks src r isComment := by
  have hpart : ∀ i < src.count, r.contains i = true → r'.contains i = true := by
    intro i _ hi
    rw [LineRange.contains_iff] at hi ⊢
    omega
  -- a line that stands belongs to the smaller range
  have hstands : ∀ i level, r'.contains i = true → y.StandsAt src isComment i level →
      r.contains i = true := by
    rintro i level hi ⟨hcomment, t, ht, hblank, -⟩
    refine Bool.of_not_eq_false fun hout => ?_
    rcases h i hi hout t ht with hc | hb
    · simp [hcomment] at hc
    · simp [hblank] at hb
  rw [blocks_eq_filter hfull hpart]
  symm
  rw [List.filter_eq_self]
  intro b hb
  have hb := mem_blocks_iff.1 hb
  have hin := LineRange.encloses_iff.1 hb.encloses
  have htwo := hb.add_two_le
  obtain ⟨level, hopens, hcloses⟩ := hb.standsAt
  have hopen := LineRange.contains_iff.1
    (hstands _ _ (LineRange.contains_iff.2 ⟨hin.1, by omega⟩) hopens)
  have hclose := LineRange.contains_iff.1
    (hstands _ _ (LineRange.contains_iff.2 ⟨by omega, hin.2⟩) hcloses)
  exact LineRange.encloses_iff.2 ⟨hopen.1, hclose.2⟩

/-- Markers in the comments of a body leave a part of its lines. -/
theorem narrow_within (m : MarkerPair) {comments : List LineComment} {body : LineRange}
    (h : ∀ c ∈ comments, body.first ≤ c.line + 1 ∧ c.line ≤ body.last) :
    body.first ≤ (m.narrow comments body).first ∧
      (m.narrow comments body).last ≤ body.last := by
  constructor
  · rcases MarkerPair.narrow_first m comments body with heq | ⟨c, hc, heq⟩
    · exact Nat.le_of_eq heq.symm
    · exact heq ▸ (h c hc).1
  · rcases MarkerPair.narrow_last m comments body with heq | ⟨c, hc, heq⟩
    · exact Nat.le_of_eq heq
    · exact heq ▸ (h c hc).2

/-- **The search is local.** In a source that knows the content of all its lines, the blocks of a
range are the blocks of the whole source that lie in the range, in the same order. So markers that
narrow a body keep the blocks that still fit and bring no other, and a range that grows by blank
lines and comment lines keeps its blocks. -/
theorem blocks_local (y : Layout) (src : LineReader) (isComment : Nat → Bool)
    (hcount : src.count < UInt64.size) (htexts : ∀ i < src.count, (src.text? i).isSome) :
    (∀ r : LineRange, y.blocks src r isComment =
      (y.blocks src .everything isComment).filter fun b => r.encloses b.startLine b.endLine) ∧
    (∀ (m : MarkerPair) (comments : List LineComment) (body : LineRange),
      (∀ c ∈ comments, body.first ≤ c.line + 1 ∧ c.line ≤ body.last) →
      y.blocks src (m.narrow comments body) isComment =
        (y.blocks src body isComment).filter fun b =>
          (m.narrow comments body).encloses b.startLine b.endLine) ∧
    ∀ r r' : LineRange, r'.first ≤ r.first → r.last ≤ r'.last →
      (∀ i, r'.contains i = true → r.contains i = false → ∀ t, src.text? i = some t →
        isComment i = true ∨ t.all isBlank = true) →
      y.blocks src r' isComment = y.blocks src r isComment := by
  refine ⟨fun r => ?_, fun m comments body h => ?_, fun r r' hfirst hlast h => ?_⟩
  · refine blocks_eq_filter htexts fun i hi _ => LineRange.contains_iff.2 ?_
    simp only [LineRange.everything]
    exact ⟨Nat.zero_le i, Nat.le_sub_one_of_lt (Nat.lt_trans hi hcount)⟩
  · have hwithin := narrow_within m h
    refine blocks_eq_filter htexts fun i _ hi => ?_
    rw [LineRange.contains_iff] at hi ⊢
    omega
  · exact blocks_eq_of_excluded htexts hfirst hlast h

/-- Two blocks that share a line, with a comment above them and a blank line below. -/
theorem blocks_local_of_two :
    let y : Layout := {}
    let src := LineReader.ofText "// x\na\n    b\na\n    b\na\n\n".toList
    let isComment := fun i => i == 0
    let m : MarkerPair := ⟨"x".toList, "y".toList⟩
    src.count < UInt64.size ∧ (∀ i < src.count, (src.text? i).isSome) ∧
      y.blocks src ⟨2, 5⟩ isComment = [⟨3, 5, "a...".toList⟩] ∧
      y.blocks src (m.narrow [⟨0, "// x".toList⟩] ⟨0, 4⟩) isComment = [⟨1, 3, "a...".toList⟩] ∧
      y.blocks src ⟨0, 6⟩ isComment = y.blocks src ⟨1, 5⟩ isComment := by
  intro y src isComment m
  have hcount : src.count < UInt64.size := by decide +kernel
  have htexts : ∀ i < src.count, (src.text? i).isSome := by decide +kernel
  obtain ⟨hrange, hmarkers, hgrown⟩ := blocks_local y src isComment hcount htexts
  refine ⟨hcount, htexts, (hrange ⟨2, 5⟩).trans (by decide +kernel),
    (hmarkers m [⟨0, "// x".toList⟩] ⟨0, 4⟩ (by simp)).trans (by decide +kernel), ?_⟩
  refine hgrown ⟨1, 5⟩ ⟨0, 6⟩ (by decide) (by decide) fun i hin hout t ht => ?_
  rw [LineRange.contains_iff] at hin
  rw [← Bool.not_eq_true, LineRange.contains_iff] at hout
  obtain rfl | rfl : i = 0 ∨ i = 6 := by
    simp only at hin hout
    omega
  · exact Or.inl rfl
  · have hblank : src.text? 6 = some [] := by decide +kernel
    rw [hblank] at ht
    obtain rfl := Option.some.inj ht
    exact Or.inr rfl

end Layout

end CodeFolding
