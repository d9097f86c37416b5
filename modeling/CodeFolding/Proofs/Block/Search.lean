import CodeFolding.Block.Search
import CodeFolding.Proofs.Line.Run
import Mathlib.Order.Bounds.Defs
/-!
# Which blocks are found

The search pairs records of lines that stand in a list. Here its result is stated in line numbers
of the source, with no list in between: `mem_blocks_iff` says which blocks are found and
`pairwise_blocks` in which order.
-/
namespace CodeFolding

/-! ## Pairs in a list of lines -/

theorem closer?_cons_eq_some_iff {excluded : IndentedLine → Bool} {l m next : IndentedLine}
    {rest : List IndentedLine} :
    closer? excluded l (next :: rest) = some m ↔
      excluded l = false ∧ l.level < next.level ∧
        rest.find? (fun k => k.level == l.level && !excluded k) = some m := by
  by_cases hl : excluded l = true
  · simp [closer?, hl]
  · by_cases hn : next.level ≤ l.level
    · simp [closer?, hn, Nat.not_lt.2 hn]
    · simp [closer?, hl, hn, Nat.lt_of_not_le hn]

theorem mem_pairLines_iff {excluded : IndentedLine → Bool} {lines : List IndentedLine}
    {l m : IndentedLine} :
    (l, m) ∈ pairLines excluded lines ↔
      ∃ k, lines[k]? = some l ∧ closer? excluded l (lines.drop (k + 1)) = some m := by
  induction lines with
  | nil => simp
  | cons first rest ih =>
    have hstep : (l, m) ∈ pairLines excluded (first :: rest) ↔
        (l = first ∧ closer? excluded first rest = some m) ∨ (l, m) ∈ pairLines excluded rest := by
      rw [pairLines_cons]
      cases hc : closer? excluded first rest with
      | none => simp
      | some c => simp [eq_comm]
    rw [hstep, ih]
    constructor
    · rintro (⟨rfl, hc⟩ | ⟨k, hk, hc⟩)
      · exact ⟨0, rfl, hc⟩
      · exact ⟨k + 1, hk, hc⟩
    · rintro ⟨k, hk, hc⟩
      cases k with
      | zero =>
        obtain rfl : first = l := by simpa using hk
        exact Or.inl ⟨rfl, hc⟩
      | succ k => exact Or.inr ⟨k, hk, hc⟩

theorem sublist_pairLines (excluded : IndentedLine → Bool) (lines : List IndentedLine) :
    ((pairLines excluded lines).map Prod.fst).Sublist lines := by
  induction lines with
  | nil => simp
  | cons first rest ih =>
    rw [pairLines_cons]
    cases closer? excluded first rest with
    | none => exact ih.cons first
    | some c => exact ih.cons_cons first

theorem pairLines_eq_nil_of_length_le {excluded : IndentedLine → Bool} {lines : List IndentedLine}
    (h : lines.length ≤ 2) : pairLines excluded lines = [] := by
  rw [List.eq_nil_iff_forall_not_mem]
  rintro ⟨l, m⟩ hmem
  obtain ⟨k, -, hc⟩ := mem_pairLines_iff.1 hmem
  cases hrest : lines.drop (k + 1) with
  | nil => simp [hrest, closer?] at hc
  | cons next rest =>
    rw [hrest] at hc
    obtain ⟨-, -, hfind⟩ := closer?_cons_eq_some_iff.1 hc
    have hlength := congrArg List.length hrest
    rw [List.length_drop, List.length_cons] at hlength
    have := List.length_pos_of_mem (List.mem_of_find?_eq_some hfind)
    omega

namespace Layout

variable {y : Layout} {src : LineReader} {r : LineRange} {isComment : Nat → Bool}

/-! ## The lines of a range as records -/

/-- Line `i` may open or close a block, and is indented by `level`: it has content that is not all
blank and is no comment. -/
def StandsAt (y : Layout) (src : LineReader) (isComment : Nat → Bool) (i level : Nat) : Prop :=
  isComment i = false ∧ ∃ t, src.text? i = some t ∧ t.all isBlank = false ∧ y.level t = level

theorem getElem?_records {k : Nat} {l : IndentedLine} :
    ((src.run r).map y.indentOf)[k]? = some l ↔
      l.line = r.first + k ∧ src.Reaches r l.line ∧
        ∃ t, src.text? l.line = some t ∧ l = y.indentOf (l.line, t) := by
  rw [List.getElem?_map, Option.map_eq_some_iff]
  constructor
  · rintro ⟨⟨i, t⟩, h, rfl⟩
    obtain ⟨hi, hr, ht⟩ := LineReader.getElem?_run.1 h
    exact ⟨hi, hr, t, ht, rfl⟩
  · rintro ⟨hi, hr, t, ht, hl⟩
    exact ⟨(l.line, t), LineReader.getElem?_run.2 ⟨hi, hr, ht⟩, hl.symm⟩

theorem getElem?_records_of_reaches {i k : Nat} {t : Text} (h : src.Reaches r i)
    (hk : r.first + k = i) (ht : src.text? i = some t) :
    ((src.run r).map y.indentOf)[k]? = some (y.indentOf (i, t)) :=
  getElem?_records.2 ⟨hk.symm, h, t, ht, rfl⟩

theorem pairwise_records (y : Layout) (src : LineReader) (r : LineRange) :
    ((src.run r).map y.indentOf).Pairwise (fun l m => l.line < m.line) := by
  rw [List.pairwise_iff_getElem]
  intro i j hi hj hij
  have hli := (getElem?_records.1 (List.getElem?_eq_getElem hi)).1
  have hlj := (getElem?_records.1 (List.getElem?_eq_getElem hj)).1
  omega

/-- **A range that the search does not read holds no block,** so nothing is lost with it. -/
theorem blocks_eq (y : Layout) (src : LineReader) (r : LineRange) (isComment : Nat → Bool) :
    y.blocks src r isComment =
      (pairLines (fun l => l.blank || isComment l.line) ((src.run r).map y.indentOf)).map
        fun (l, m) => ⟨l.line, m.line, placeholder ((src.text? l.line).getD [])⟩ := by
  rw [blocks, indents]
  split
  · next hshort =>
    have hlength : ((src.run r).map y.indentOf).length ≤ 2 := by
      refine Nat.le_of_not_lt fun hlt => ?_
      obtain ⟨hline, hreach, -⟩ := getElem?_records.1 (List.getElem?_eq_getElem hlt)
      have hlast := hreach.2.1
      simp only [LineRange.isEmpty, LineRange.isPair, Bool.or_eq_true, decide_eq_true_eq,
        beq_iff_eq] at hshort
      omega
    rw [pairLines_eq_nil_of_length_le hlength, pairLines_nil]
  · rfl

theorem standsAt_iff_of_text {i level : Nat} {t : Text} (ht : src.text? i = some t) :
    y.StandsAt src isComment i level ↔
      (y.indentOf (i, t)).level = level ∧
        ((y.indentOf (i, t)).blank || isComment (y.indentOf (i, t)).line) = false := by
  simp only [StandsAt, ht, Option.some.injEq, exists_eq_left', indentOf, Bool.or_eq_false_iff]
  constructor
  · rintro ⟨hc, hb, hl⟩; exact ⟨hl, hb, hc⟩
  · rintro ⟨hl, hb, hc⟩; exact ⟨hc, hb, hl⟩

/-- The first record from position `k` on that stands at a level is that of the least such line. -/
theorem find?_records_eq_some_iff {k level : Nat} {m : IndentedLine} :
    (((src.run r).map y.indentOf).drop k).find?
        (fun l => l.level == level && !(l.blank || isComment l.line)) = some m ↔
      (∃ t, src.text? m.line = some t ∧ m = y.indentOf (m.line, t)) ∧
        IsLeast {i | r.first + k ≤ i ∧ src.Reaches r i ∧ y.StandsAt src isComment i level}
          m.line := by
  have hstands : ∀ (l : IndentedLine) (t : Text), src.text? l.line = some t →
      l = y.indentOf (l.line, t) →
      ((l.level == level && !(l.blank || isComment l.line)) = true ↔
        y.StandsAt src isComment l.line level) := by
    intro l t ht hl
    rw [standsAt_iff_of_text ht, ← hl]
    simp
  rw [List.find?_eq_some_iff_getElem]
  constructor
  · rintro ⟨hp, j, hj, hm, hfirst⟩
    rw [List.getElem_drop] at hm
    obtain ⟨hline, hreach, t, ht, hmt⟩ := getElem?_records.1 (List.getElem?_eq_some_iff.2 ⟨_, hm⟩)
    refine ⟨⟨t, ht, hmt⟩, ⟨by omega, hreach, (hstands m t ht hmt).1 hp⟩, ?_⟩
    rintro i ⟨hki, hri, hsi⟩
    refine Nat.le_of_not_lt fun hlt => ?_
    obtain ⟨u, hu⟩ := hri.exists_text
    -- a smaller line has its record in front of the one that was found
    have hget : ((src.run r).map y.indentOf)[k + (i - r.first - k)]? = some (y.indentOf (i, u)) :=
      getElem?_records_of_reaches hri (by omega) hu
    obtain ⟨hlen, hget⟩ := List.getElem?_eq_some_iff.1 hget
    have hskip := hfirst (i - r.first - k) (by omega)
    rw [List.getElem_drop, hget] at hskip
    have hpass := (hstands (y.indentOf (i, u)) u hu rfl).2 hsi
    rw [hpass] at hskip
    exact absurd hskip (by simp)
  · rintro ⟨⟨t, ht, hmt⟩, ⟨hkm, hreach, hstand⟩, hleast⟩
    have hget : ((src.run r).map y.indentOf)[k + (m.line - r.first - k)]? = some m :=
      getElem?_records.2 ⟨by omega, hreach, t, ht, hmt⟩
    obtain ⟨hlen, hget⟩ := List.getElem?_eq_some_iff.1 hget
    refine ⟨(hstands m t ht hmt).2 hstand, m.line - r.first - k, ?_, ?_, ?_⟩
    · rw [List.length_drop]; omega
    · rw [List.getElem_drop]; exact hget
    · intro j hj
      rw [List.getElem_drop]
      have hlenj : k + j < ((src.run r).map y.indentOf).length := by omega
      obtain ⟨hline, hrj, u, hu, hlu⟩ := getElem?_records.1 (List.getElem?_eq_getElem hlenj)
      rw [Bool.not_eq_true', ← Bool.not_eq_true]
      intro hpass
      have hsj := (hstands _ u hu hlu).1 hpass
      have := hleast ⟨by omega, hrj, hsj⟩
      omega

/-! ## The blocks -/

/-- What a block is, in line numbers of the source. `IsLeast S k` means that `k` belongs to `S` and
is at most every member of `S`. -/
structure IsBlock (y : Layout) (src : LineReader) (r : LineRange) (isComment : Nat → Bool)
    (b : Block) : Prop where
  /-- The opener is read, and so is the line behind it. -/
  reaches : src.Reaches r b.startLine
  reaches_next : src.Reaches r (b.startLine + 1)
  /-- The opener stands, its successor is indented deeper, and the first line behind these two that
  stands where the opener does is the closer. -/
  closes : ∃ t next, src.text? b.startLine = some t ∧ src.text? (b.startLine + 1) = some next ∧
    y.StandsAt src isComment b.startLine (y.level t) ∧ y.level t < y.level next ∧
    IsLeast {i | b.startLine + 2 ≤ i ∧ src.Reaches r i ∧ y.StandsAt src isComment i (y.level t)}
      b.endLine ∧
    b.placeholder = placeholder t

/-- **A range holds exactly the blocks that `IsBlock` describes.** -/
theorem mem_blocks_iff {b : Block} :
    b ∈ y.blocks src r isComment ↔ y.IsBlock src r isComment b := by
  simp only [blocks_eq, List.mem_map, Prod.exists, mem_pairLines_iff]
  constructor
  · rintro ⟨l, m, ⟨k, hl, hc⟩, rfl⟩
    obtain ⟨hline, hreach, t, ht, hlt⟩ := getElem?_records.1 hl
    cases hrest : ((src.run r).map y.indentOf).drop (k + 1) with
    | nil => rw [hrest] at hc; simp [closer?] at hc
    | cons next rest =>
      rw [hrest] at hc
      obtain ⟨hex, hdeep, hfind⟩ := closer?_cons_eq_some_iff.1 hc
      have hnext : ((src.run r).map y.indentOf)[k + 1]? = some next := by
        rw [← List.head?_drop, hrest]; rfl
      have hbehind : rest = ((src.run r).map y.indentOf).drop (k + 2) := by
        rw [← List.tail_drop, hrest]; rfl
      obtain ⟨hnline, hnreach, u, hu, hnu⟩ := getElem?_records.1 hnext
      rw [hbehind] at hfind
      obtain ⟨-, hleast⟩ := find?_records_eq_some_iff.1 hfind
      have hsucc : next.line = l.line + 1 := by omega
      have hlevel : l.level = y.level t := by rw [hlt]; rfl
      have hnlevel : next.level = y.level u := by rw [hnu]; rfl
      rw [hlevel] at hleast hdeep
      rw [hnlevel] at hdeep
      refine ⟨hreach, hsucc ▸ hnreach, t, u, ht, hsucc ▸ hu, ?_, hdeep, ?_, by simp [ht]⟩
      · rw [standsAt_iff_of_text ht, ← hlt]; exact ⟨hlevel, hex⟩
      · rw [show l.line + 2 = r.first + (k + 2) by omega]; exact hleast
  · rintro ⟨hreach, hnreach, t, u, ht, hu, hstand, hdeep, hleast, hph⟩
    obtain ⟨v, hv⟩ := hleast.1.2.1.exists_text
    have hfirst := hreach.1
    have hl : ((src.run r).map y.indentOf)[b.startLine - r.first]? =
        some (y.indentOf (b.startLine, t)) :=
      getElem?_records_of_reaches hreach (by omega) ht
    have hnext : ((src.run r).map y.indentOf)[b.startLine - r.first + 1]? =
        some (y.indentOf (b.startLine + 1, u)) :=
      getElem?_records_of_reaches hnreach (by omega) hu
    refine ⟨y.indentOf (b.startLine, t), y.indentOf (b.endLine, v), ⟨_, hl, ?_⟩, ?_⟩
    · obtain ⟨hlen, hget⟩ := List.getElem?_eq_some_iff.1 hnext
      rw [List.drop_eq_getElem_cons hlen, hget]
      refine closer?_cons_eq_some_iff.2 ⟨((standsAt_iff_of_text ht).1 hstand).2, hdeep, ?_⟩
      refine find?_records_eq_some_iff.2 ⟨⟨v, hv, rfl⟩, ?_⟩
      rw [show r.first + (b.startLine - r.first + 1 + 1) = b.startLine + 2 by omega]
      exact hleast
    · simp only [indentOf, ht, Option.getD_some, ← hph]

/-- **Blocks come in the order of their first lines, and no two of them share it.** -/
theorem pairwise_blocks (y : Layout) (src : LineReader) (r : LineRange) (isComment : Nat → Bool) :
    (y.blocks src r isComment).Pairwise (fun b c => b.startLine < c.startLine) := by
  have hlines := (pairwise_records y src r).sublist
    (sublist_pairLines (fun l => l.blank || isComment l.line) ((src.run r).map y.indentOf))
  rw [List.pairwise_map] at hlines
  rw [blocks_eq, List.pairwise_map]
  exact hlines.imp fun h => h

/-- **The search finds exactly the blocks of a range, in the order of their first lines.** -/
theorem blocks_exact (y : Layout) (src : LineReader) (r : LineRange) (isComment : Nat → Bool) :
    (y.blocks src r isComment).Pairwise (fun b c => b.startLine < c.startLine) ∧
      ∀ b, b ∈ y.blocks src r isComment ↔ y.IsBlock src r isComment b :=
  ⟨pairwise_blocks y src r isComment, fun _ => mem_blocks_iff⟩

end Layout

end CodeFolding
