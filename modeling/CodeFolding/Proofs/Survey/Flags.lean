import CodeFolding.Survey
import CodeFolding.Proofs.Line.Row
import CodeFolding.Proofs.Token.Place
import Mathlib.Data.List.Induction
/-!
# Lines that begin with a comment

The flags are made character by character. Here they are read off the file: a line is flagged just
when it has a character that is not blank and the first such character is part of a comment token
(`isComment_iff`). There is a flag for every line feed and one more (`size_flagLines`).
-/
namespace CodeFolding

/-- A character with whether it is part of a comment. -/
abbrev Mark := Char × Bool

/-- The characters of some tokens. -/
def marks (ks : List Token) : List Mark :=
  ks.flatMap fun k => k.text.map fun c => (c, k.kind.isComment)

/-- The text that marked characters make up. -/
def unmark (ms : List Mark) : Text := ms.map Prod.fst

@[simp] theorem unmark_nil : unmark [] = [] := rfl

@[simp] theorem unmark_append (ms ns : List Mark) : unmark (ms ++ ns) = unmark ms ++ unmark ns :=
  List.map_append

theorem unmark_marks (ks : List Token) : unmark (marks ks) = ks.flatMap Token.text := by
  induction ks with
  | nil => rfl
  | cons k ks ih => simp_all [marks, unmark, Function.comp_def]

theorem newlines_unmark_append (ms : List Mark) (c : Char) (b : Bool) :
    Text.newlines (unmark (ms ++ [(c, b)])) =
      Text.newlines (unmark ms) + if c = '\n' then 1 else 0 := by
  rw [unmark_append, Text.newlines_append]
  simp [unmark, Text.newlines_cons]

theorem lastRow_unmark_append (ms : List Mark) (c : Char) (b : Bool) :
    Text.lastRow (unmark (ms ++ [(c, b)])) =
      if c = '\n' then [] else Text.lastRow (unmark ms) ++ [c] := by
  rw [unmark_append]
  exact Text.lastRow_append_singleton _ c

/-- The first character of line `i` that is not blank is part of a comment, or is not. -/
def FirstInk (ms : List Mark) (i : Nat) (comment : Bool) : Prop :=
  ∃ front c rest, ms = front ++ (c, comment) :: rest ∧ isBlank c = false ∧
    Text.newlines (unmark front) = i ∧ (Text.lastRow (unmark front)).all isBlank = true

theorem isBlank_feed : isBlank '\n' = true := by decide

theorem FirstInk.le {ms : List Mark} {i : Nat} {b : Bool} (h : FirstInk ms i b) :
    i ≤ Text.newlines (unmark ms) := by
  obtain ⟨front, c, rest, rfl, -, rfl, -⟩ := h
  simp

theorem firstInk_append_singleton {ms : List Mark} {c : Char} {b comment : Bool} {i : Nat} :
    FirstInk (ms ++ [(c, b)]) i comment ↔
      FirstInk ms i comment ∨ (comment = b ∧ isBlank c = false ∧
        Text.newlines (unmark ms) = i ∧ (Text.lastRow (unmark ms)).all isBlank = true) := by
  constructor
  · rintro ⟨front, d, rest, hsplit, hd, hi, hrow⟩
    cases hrest : rest.reverse with
    | nil =>
      obtain rfl : rest = [] := by simpa using hrest
      obtain ⟨rfl, hlast⟩ := List.append_inj' hsplit rfl
      obtain ⟨rfl, rfl⟩ : c = d ∧ b = comment := by simpa using hlast
      exact Or.inr ⟨rfl, hd, hi, hrow⟩
    | cons last rest' =>
      obtain rfl : rest = rest'.reverse ++ [last] := by
        rw [← List.reverse_cons, ← hrest, List.reverse_reverse]
      rw [← List.cons_append, ← List.append_assoc] at hsplit
      obtain ⟨rfl, -⟩ := List.append_inj' hsplit rfl
      exact Or.inl ⟨front, d, rest'.reverse, rfl, hd, hi, hrow⟩
  · rintro (⟨front, d, rest, rfl, hd, hi, hrow⟩ | ⟨rfl, hd, hi, hrow⟩)
    · exact ⟨front, d, rest ++ [(c, b)], by simp, hd, hi, hrow⟩
    · exact ⟨ms, c, [], rfl, hd, hi, hrow⟩

/-! ## The flags while characters are read -/

namespace LineFlags

variable {f : LineFlags} {isComment : Bool}

/-- A line that has its first token is not changed by the others. -/
theorem foldl_read_of_isSome {row : Text} (h : f.running.isSome = true) (hrow : '\n' ∉ row) :
    row.foldl (read isComment) f = f := by
  induction row with
  | nil => rfl
  | cons c row ih =>
    rw [List.mem_cons, not_or] at hrow
    have hread : f.read isComment c = f := by
      rw [read, if_neg (Ne.symm hrow.1)]
      split
      · rfl
      · rw [Option.orElse_eq_orElse, Option.orElse_eq_or, Option.or_of_isSome h]
    rw [List.foldl_cons, hread]
    exact ih hrow.2

/-- A token on one line counts by its first character. -/
theorem foldl_read_row {c : Char} {row : Text} (hink : isBlank c = false)
    (hrow : '\n' ∉ c :: row) :
    (c :: row).foldl (read isComment) f = { f with running := f.running <|> some isComment } := by
  rw [List.mem_cons, not_or] at hrow
  have hread : f.read isComment c = { f with running := f.running <|> some isComment } := by
    rw [read, if_neg (Ne.symm hrow.1), if_neg (by simp [hink])]
  rw [List.foldl_cons, hread]
  exact foldl_read_of_isSome (by cases f.running <;> rfl) hrow.2

/-- The flags say of the characters read which lines begin with a comment. -/
structure Describes (s : LineFlags) (ms : List Mark) : Prop where
  size_done : s.done.size = Text.newlines (unmark ms)
  running_none : s.running = none ↔ (Text.lastRow (unmark ms)).all isBlank = true
  running_iff : ∀ b, s.running = some b ↔ FirstInk ms (Text.newlines (unmark ms)) b
  done_iff : ∀ i < s.done.size, s.done[i]? = some true ↔ FirstInk ms i true

/-- A line feed ends the running line. -/
theorem Describes.read_feed {s : LineFlags} {ms : List Mark} (h : s.Describes ms) (b : Bool) :
    (s.read b '\n').Describes (ms ++ [('\n', b)]) := by
  obtain ⟨hsize, -, hrun, hdone⟩ := h
  have hcount := newlines_unmark_append ms '\n' b
  have hlast := lastRow_unmark_append ms '\n' b
  have hkeep : ∀ i b', FirstInk (ms ++ [('\n', b)]) i b' ↔ FirstInk ms i b' := by
    intro i b'
    simp [firstInk_append_singleton, isBlank_feed]
  rw [if_pos rfl] at hcount hlast
  refine ⟨?_, ?_, ?_, ?_⟩
  · rw [hcount]; simp [LineFlags.read, hsize]
  · rw [hlast]; simp [LineFlags.read]
  · intro b'
    rw [hkeep, hcount]
    refine ⟨by simp [LineFlags.read], fun hink => ?_⟩
    have hle := hink.le
    omega
  · intro i hi
    rw [hkeep]
    simp only [LineFlags.read, if_true, Array.size_push] at hi ⊢
    by_cases hlt : i < s.done.size
    · rw [Array.getElem?_push_lt hlt, ← Array.getElem?_eq_getElem hlt, hdone i hlt]
    · obtain rfl : i = s.done.size := by omega
      rw [Array.getElem?_push_size, hsize, ← hrun true]
      simp

/-- Any other blank changes nothing. -/
theorem Describes.read_blank {s : LineFlags} {ms : List Mark} (h : s.Describes ms) {c : Char}
    (b : Bool) (hc : c ≠ '\n') (hblank : isBlank c = true) :
    (s.read b c).Describes (ms ++ [(c, b)]) := by
  obtain ⟨hsize, hnone, hrun, hdone⟩ := h
  have hcount := newlines_unmark_append ms c b
  have hlast := lastRow_unmark_append ms c b
  have hkeep : ∀ i b', FirstInk (ms ++ [(c, b)]) i b' ↔ FirstInk ms i b' := by
    intro i b'
    simp [firstInk_append_singleton, hblank]
  rw [if_neg hc, Nat.add_zero] at hcount
  rw [if_neg hc] at hlast
  simp only [LineFlags.read, hc, hblank, if_true, if_false]
  refine ⟨by rw [hcount, hsize], ?_, fun b' => ?_, fun i hi => ?_⟩
  · rw [hlast, hnone, List.all_append]; simp [hblank]
  · rw [hkeep, hcount, hrun]
  · rw [hkeep, hdone i hi]

/-- A character that is not blank counts if it is the first one of its line. -/
theorem Describes.read_ink {s : LineFlags} {ms : List Mark} (h : s.Describes ms) {c : Char}
    (b : Bool) (hc : c ≠ '\n') (hblank : isBlank c = false) :
    (s.read b c).Describes (ms ++ [(c, b)]) := by
  obtain ⟨hsize, hnone, hrun, hdone⟩ := h
  have hcount := newlines_unmark_append ms c b
  have hlast := lastRow_unmark_append ms c b
  rw [if_neg hc, Nat.add_zero] at hcount
  rw [if_neg hc] at hlast
  simp only [LineFlags.read, hc, hblank, Bool.false_eq_true, if_false]
  refine ⟨by rw [hcount, hsize], ?_, fun b' => ?_, fun i (hi : i < s.done.size) => ?_⟩
  · rw [hlast, List.all_append]
    cases hs : s.running <;> simp [hblank]
  · rw [firstInk_append_singleton, hcount, ← hrun]
    cases hs : s.running with
    | none => simp [hblank, hnone.1 hs, eq_comm]
    | some a =>
      -- the line has its first character already
      have hrow : (Text.lastRow (unmark ms)).all isBlank = false := by
        rw [← Bool.not_eq_true, ← hnone, hs]; simp
      simp [hrow]
  · rw [hdone i hi, firstInk_append_singleton]
    refine ⟨Or.inl, ?_⟩
    rintro (h | ⟨-, -, hline, -⟩)
    · exact h
    · omega

/-- **One more character keeps the flags at what the characters read say.** -/
theorem Describes.read {s : LineFlags} {ms : List Mark} (h : s.Describes ms) (c : Char)
    (b : Bool) : (s.read b c).Describes (ms ++ [(c, b)]) := by
  by_cases hc : c = '\n'
  · exact hc ▸ h.read_feed b
  · cases hblank : isBlank c with
    | true => exact h.read_blank b hc hblank
    | false => exact h.read_ink b hc hblank

theorem Describes.readToken {s : LineFlags} {ms : List Mark} (h : s.Describes ms) (k : Token) :
    (s.readToken k).Describes (ms ++ marks [k]) := by
  have hfold : ∀ (t : Text) (s : LineFlags) (ms : List Mark), s.Describes ms →
      (t.foldl (LineFlags.read k.kind.isComment) s).Describes
        (ms ++ t.map fun c => (c, k.kind.isComment)) := by
    intro t
    induction t with
    | nil => intro s ms h; simpa using h
    | cons c t ih => intro s ms h; simpa using ih _ _ (h.read c k.kind.isComment)
  simpa [marks, LineFlags.readToken] using hfold k.text s ms h

theorem describes_foldl (ks : List Token) :
    (ks.foldl LineFlags.readToken {}).Describes (marks ks) := by
  induction ks using List.reverseRecOn with
  | nil =>
    refine ⟨rfl, by simp [marks], fun b => ?_, by simp⟩
    simp [FirstInk, marks]
  | append_singleton ks k ih =>
    have := ih.readToken k
    rw [List.foldl_append]
    simpa [marks] using this

end LineFlags

/-- **There is a flag for every line feed, and one more.** -/
theorem size_flagLines (ks : List Token) :
    (flagLines ks).size = Text.newlines (ks.flatMap Token.text) + 1 := by
  rw [flagLines, LineFlags.all, Array.size_push, (LineFlags.describes_foldl ks).size_done,
    unmark_marks]

theorem getElem?_flagLines {ks : List Token} {i : Nat} :
    (flagLines ks)[i]? = some true ↔ FirstInk (marks ks) i true := by
  obtain ⟨hsize, -, hrun, hdone⟩ := LineFlags.describes_foldl ks
  rw [flagLines, LineFlags.all]
  rcases Nat.lt_trichotomy i (ks.foldl LineFlags.readToken {}).done.size with hlt | rfl | hgt
  · rw [Array.getElem?_push_lt hlt, ← Array.getElem?_eq_getElem hlt, hdone i hlt]
  · rw [Array.getElem?_push_size, hsize, ← hrun]
    simp
  · rw [Array.getElem?_eq_none (by rw [Array.size_push]; omega)]
    refine ⟨by simp, fun h => ?_⟩
    have := h.le
    omega

/-! ## Flags and comment tokens -/

theorem exists_token_of_marks {ks : List Token} {front rest : List Mark} {c : Char} {b : Bool}
    (h : marks ks = front ++ (c, b) :: rest) :
    ∃ before k behind col more, ks = before ++ k :: behind ∧ k.text = col ++ c :: more ∧
      k.kind.isComment = b ∧ unmark front = before.flatMap Token.text ++ col := by
  induction ks generalizing front with
  | nil => simp [marks] at h
  | cons k ks ih =>
    have hsplit : k.text.map (fun d => (d, k.kind.isComment)) ++ marks ks =
        front ++ (c, b) :: rest := by rw [← h]; rfl
    rcases List.append_eq_append_iff.1 hsplit with ⟨u, hfront, hrest⟩ | ⟨u, htext, hrest⟩
    · obtain ⟨before, j, behind, col, more, rfl, hj, hb, hu⟩ := ih hrest
      refine ⟨k :: before, j, behind, col, more, rfl, hj, hb, ?_⟩
      rw [hfront, unmark_append, hu]
      simp [unmark, Function.comp_def]
    · cases u with
      | nil =>
        obtain ⟨before, j, behind, col, more, rfl, hj, hb, hu⟩ := @ih [] hrest.symm
        refine ⟨k :: before, j, behind, col, more, rfl, hj, hb, ?_⟩
        rw [List.append_nil] at htext
        rw [← htext, List.flatMap_cons, List.append_assoc, ← hu]
        simp [unmark, Function.comp_def]
      | cons m u =>
        obtain ⟨rfl, -⟩ := List.cons.inj hrest
        obtain ⟨col, tail, hk, hcol, htail⟩ := List.map_eq_append_iff.1 htext
        obtain ⟨d, more, rfl, hd, -⟩ := List.map_eq_cons_iff.1 htail
        obtain ⟨rfl, rfl⟩ := Prod.mk.inj hd
        refine ⟨[], k, ks, col, more, rfl, hk, rfl, ?_⟩
        rw [← hcol]
        simp [unmark, Function.comp_def]

variable {lang : Language} {t : Text}

theorem exists_covers_of_marks {front rest : List Mark} {c : Char} {b : Bool}
    (h : marks (lang.tokens t) = front ++ (c, b) :: rest) :
    ∃ k ∈ lang.placed t, k.kind.isComment = b ∧ k.Covers (Text.size (unmark front)) := by
  obtain ⟨before, j, behind, col, more, hsplit, htext, hb, hfront⟩ := exists_token_of_marks h
  rw [← Language.map_toToken_placed] at hsplit
  obtain ⟨ks, tail, hplaced, hks, htail⟩ := List.map_eq_append_iff.1 hsplit
  obtain ⟨k, ls, rfl, rfl, -⟩ := List.map_eq_cons_iff.1 htail
  obtain ⟨hoffset, -⟩ := Language.place_of_append hplaced
  have hsize : Text.size (unmark front) = k.offset + Text.size col := by
    rw [hfront, Text.size_append, ← hks, PlacedToken.flatMap_text_map, hoffset]
  refine ⟨k, by rw [hplaced]; simp, hb, ?_, ?_⟩
  · omega
  · have := c.utf8Size_pos
    rw [hsize, htext, Text.size_append, Text.size_cons]
    omega

/-- The first character of a line that is not blank lies in a comment token. -/
def Line.BeginsInComment (l : Line) (ks : List PlacedToken) : Prop :=
  ∃ front c rest, l.text = front ++ c :: rest ∧ front.all isBlank = true ∧ isBlank c = false ∧
    ∃ k ∈ ks, k.kind.isComment = true ∧ k.Covers (l.start + Text.size front)

theorem unmark_marks_tokens (lang : Language) (t : Text) :
    unmark (marks (lang.tokens t)) = t := by
  rw [unmark_marks, Language.flatMap_tokens]

theorem beginsInComment_of_firstInk {i : Nat} {l : Line} (hl : (Line.ofText t)[i]? = some l)
    (h : FirstInk (marks (lang.tokens t)) i true) : l.BeginsInComment (lang.placed t) := by
  obtain ⟨front, c, rest, hsplit, hc, rfl, hrow⟩ := h
  have ht : t = unmark front ++ c :: unmark rest := by
    rw [← unmark_marks_tokens lang t, hsplit, unmark_append]; rfl
  have hfeed : c ≠ '\n' := by rintro rfl; simp [isBlank_feed] at hc
  have hreturn : c ≠ '\r' := by rintro rfl; exact absurd hc (by decide)
  obtain ⟨l', ended, col, hl', hfront, hcol, hisrow⟩ :=
    @Line.exists_isRow (unmark front) (unmark rest) c hfeed
  rw [← ht, hl] at hl'
  obtain rfl := Option.some.inj hl'
  obtain ⟨more, htext⟩ := hisrow.text_eq hcol hfeed hreturn
  rw [hfront, Text.lastRow_append hisrow.front_ends hcol] at hrow
  refine ⟨col, c, more, htext, hrow, hc, ?_⟩
  rw [hisrow.start_eq, Nat.zero_add, ← Text.size_append, ← hfront]
  exact exists_covers_of_marks hsplit

theorem firstInk_of_beginsInComment {i : Nat} {l : Line} (hl : (Line.ofText t)[i]? = some l)
    (h : l.BeginsInComment (lang.placed t)) : FirstInk (marks (lang.tokens t)) i true := by
  obtain ⟨col, c, more, htext, hcol, hc, k, hk, hcomment, hcover⟩ := h
  obtain ⟨ended, row, ht, hisrow⟩ := Line.isRow_of_getElem? hl
  obtain ⟨rest, rfl⟩ := hisrow.text_prefix
  have hfeed : '\n' ∉ col := fun hmem =>
    hisrow.not_mem_text (by rw [htext]; exact List.mem_append_left _ hmem)
  -- the same splitting of the text, with marks
  have hsplit : unmark (marks (lang.tokens t)) = (ended ++ col) ++ c :: (more ++ rest) := by
    rw [unmark_marks_tokens, ht, htext]; simp
  obtain ⟨front, tail, hmarks, hfront, htail⟩ := List.map_eq_append_iff.1 hsplit
  obtain ⟨⟨d, b⟩, rest', rfl, rfl, -⟩ := List.map_eq_cons_iff.1 htail
  have hfront : unmark front = ended ++ col := hfront
  obtain ⟨j, hj, hjb, hjcover⟩ := exists_covers_of_marks hmarks
  rw [hfront, Text.size_append] at hjcover
  rw [hisrow.start_eq, Nat.zero_add] at hcover
  obtain rfl := Language.eq_of_covers hj hk hjcover hcover
  obtain rfl := hjb.symm.trans hcomment
  refine ⟨front, d, rest', hmarks, hc, ?_, ?_⟩
  · rw [hfront, Text.newlines_append, hisrow.newlines_front, Text.newlines_eq_zero_iff.2 hfeed,
      Nat.add_zero]
  · rw [hfront, Text.lastRow_append hisrow.front_ends hfeed]
    exact hcol

/-- **A line is flagged just when it begins in a comment token.** -/
theorem Survey.isComment_iff {i : Nat} {l : Line} (hl : (Line.ofText t)[i]? = some l) :
    (Survey.ofText lang t).isComment i = true ↔ l.BeginsInComment (lang.placed t) := by
  have hflag : (Survey.ofText lang t).isComment i = true ↔
      FirstInk (marks (lang.tokens t)) i true := by
    rw [← getElem?_flagLines, isComment, Option.getD_eq_iff]
    simp [ofText]
  rw [hflag]
  exact ⟨beginsInComment_of_firstInk hl, firstInk_of_beginsInComment hl⟩

end CodeFolding
