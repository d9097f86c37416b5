import CodeFolding.Proofs.Block.Search
import CodeFolding.Proofs.Line.Row
import Mathlib.Data.List.Forall2
import Mathlib.Data.List.TakeWhile
/-!
# The bytes of a block

The search pairs lines, and an editor folds bytes. Main statement: every block in a range of a text
has its region, and the region is a slice of the text that begins on the line of the opener, behind
nothing but whole levels of spaces, and ends where the content of the closing line does
(`regions_are_slices`).
-/
namespace CodeFolding

/-! ## Two lines of one text -/

namespace Line

/-- The content of a line stands in the text, at the offset of the line. -/
theorem exists_split {t : Text} {i : Nat} {l : Line} (h : (ofText t)[i]? = some l) :
    ∃ front rest, t = front ++ (l.text ++ rest) ∧ Text.size front = l.start ∧
      Text.newlines front = i ∧ '\n' ∉ l.text := by
  obtain ⟨front, rest, rfl, hrow⟩ := isRow_of_getElem? h
  obtain ⟨rest', rfl⟩ := hrow.text_prefix
  refine ⟨front, rest', rfl, ?_, hrow.newlines_front, hrow.not_mem_text⟩
  rw [hrow.start_eq, Nat.zero_add]

theorem newlines_text {t : Text} {i : Nat} {l : Line} (h : (ofText t)[i]? = some l) :
    Text.newlines l.text = 0 := by
  obtain ⟨-, -, -, -, -, hfeed⟩ := exists_split h
  exact Text.newlines_eq_zero_iff.2 hfeed

theorem stop_le_size {t : Text} {i : Nat} {l : Line} (h : (ofText t)[i]? = some l) :
    l.stop ≤ Text.size t := by
  obtain ⟨front, rest, rfl, hstart, -, -⟩ := exists_split h
  simp only [stop, Text.size_append]
  omega

/-- Between the contents of two lines stand as many line feeds as their numbers differ by. -/
theorem exists_between {t : Text} {i j : Nat} {k l : Line} (hk : (ofText t)[i]? = some k)
    (hl : (ofText t)[j]? = some l) (hij : i < j) :
    ∃ front between rest, t = front ++ (k.text ++ (between ++ (l.text ++ rest))) ∧
      Text.size front = k.start ∧ Text.size (front ++ (k.text ++ between)) = l.start ∧
      Text.newlines between = j - i := by
  obtain ⟨front, rest, ht, hkstart, hkline, -⟩ := exists_split hk
  obtain ⟨front', rest', ht', hlstart, hlline, -⟩ := exists_split hl
  have hkfeeds := newlines_text hk
  rw [ht, ← List.append_assoc] at ht'
  rcases Text.split_cases ht' with ⟨between, rfl, rfl⟩ | ⟨u, hfront, -, -⟩
  · refine ⟨front, between, rest', by simpa using ht, hkstart, by simpa using hlstart, ?_⟩
    simp only [Text.newlines_append] at hlline
    omega
  · -- the later line would begin in the earlier one
    have hle := congrArg Text.newlines hfront
    simp only [Text.newlines_append] at hle
    omega

theorem stop_lt_start {t : Text} {i j : Nat} {k l : Line} (hk : (ofText t)[i]? = some k)
    (hl : (ofText t)[j]? = some l) (hij : i < j) : k.stop < l.start := by
  obtain ⟨front, between, rest, -, hkstart, hlstart, hfeeds⟩ := exists_between hk hl hij
  have hbetween : 0 < Text.size between := by
    refine Text.size_pos ?_
    rintro rfl
    rw [Text.newlines_nil] at hfeeds
    omega
  simp only [Text.size_append] at hlstart
  simp only [stop]
  omega

end Line

/-! ## The region of a block -/

/-- The region `g` folds away the block `b` of the text `t`. -/
structure Region.IsOf (g : Region) (t : Text) (b : Block) : Prop where
  startLine_eq : g.startLine = b.startLine
  endLine_eq : g.endLine = b.endLine
  placeholder_eq : g.placeholder = b.placeholder
  /-- The region begins in the content of its first line and ends with that of its last, further
  down. -/
  offsets : ∃ first last : Line, (Line.ofText t)[g.startLine]? = some first ∧
    (Line.ofText t)[g.endLine]? = some last ∧ first.start ≤ g.startOffset ∧
    g.startOffset ≤ first.stop ∧ first.stop < g.endOffset ∧ g.endOffset = last.stop ∧
    last.stop ≤ Text.size t
  /-- It is made of whole characters, with a line feed for every line it goes down. -/
  slice : ∃ part, Text.IsSlice t part g.startOffset g.endOffset ∧
    Text.newlines part = g.endLine - g.startLine

/-- The region `g'` is the region `g` without the whole levels of spaces it begins with. -/
def Region.SkipsIndent (y : Layout) (t : Text) (g g' : Region) : Prop :=
  ∃ l : Line, (Line.ofText t)[g.startLine]? = some l ∧ g.startOffset = l.start ∧
    g' = { g with startOffset := g.startOffset + y.level l.text * y.width } ∧
    Text.IsSlice t (List.replicate (y.level l.text * y.width) ' ') g.startOffset g'.startOffset

namespace Layout

variable {y : Layout} {t : Text} {r : LineRange} {isComment : Nat → Bool} {b : Block}

theorem exists_eq_replicate_append (y : Layout) (t : Text) :
    ∃ more, t = List.replicate (y.level t * y.width) ' ' ++ more := by
  have hspaces : t.takeWhile (· == ' ') =
      List.replicate (t.takeWhile (· == ' ')).length ' ' := by
    refine List.eq_replicate_iff.2 ⟨rfl, fun c hc => ?_⟩
    simpa using List.mem_takeWhile_imp hc
  have hle : y.level t * y.width ≤ (t.takeWhile (· == ' ')).length := Nat.div_mul_le_self _ _
  obtain ⟨n, hn⟩ := Nat.exists_eq_add_of_le hle
  refine ⟨List.replicate n ' ' ++ t.dropWhile (· == ' '), ?_⟩
  rw [← List.append_assoc, List.replicate_append_replicate, ← hn, ← hspaces,
    List.takeWhile_append_dropWhile]

/-- The bytes of a line in front of the region that it opens. -/
def skipped (y : Layout) (t : Text) : Nat :=
  match y.regionStart with
  | .lineStart => 0
  | .skipIndent => y.level t * y.width

theorem size_replicate_space (n : Nat) : Text.size (List.replicate n ' ') = n := by
  induction n with
  | zero => rfl
  | succ n ih =>
    have hspace : Char.utf8Size ' ' = 1 := by decide
    rw [List.replicate_succ, Text.size_cons, ih, hspace, Nat.add_comm]

theorem newlines_replicate_space (n : Nat) : Text.newlines (List.replicate n ' ') = 0 := by
  rw [Text.newlines_eq_zero_iff]
  simp

theorem level_mul_width_le (y : Layout) (t : Text) : y.level t * y.width ≤ Text.size t := by
  obtain ⟨more, ht⟩ := exists_eq_replicate_append y t
  have hsize := congrArg Text.size ht
  rw [Text.size_append, size_replicate_space] at hsize
  omega

/-- What is skipped of a line are spaces it begins with. -/
theorem exists_skipped (y : Layout) (t : Text) :
    ∃ more, t = List.replicate (y.skipped t) ' ' ++ more ∧
      y.skipped t + Text.size more = Text.size t ∧ Text.newlines more = Text.newlines t := by
  have hfront : ∃ more, t = List.replicate (y.skipped t) ' ' ++ more := by
    unfold skipped
    split
    · exact ⟨t, rfl⟩
    · exact exists_eq_replicate_append y t
  obtain ⟨more, ht⟩ := hfront
  have hsize := congrArg Text.size ht
  have hfeeds := congrArg Text.newlines ht
  rw [Text.size_append, size_replicate_space] at hsize
  rw [Text.newlines_append, newlines_replicate_space, Nat.zero_add] at hfeeds
  exact ⟨more, ht, hsize.symm, hfeeds.symm⟩

/-- The lines of a block are lines of the text, one further down than the other. -/
theorem exists_lines_of_mem_blocks (h : b ∈ y.blocks (LineReader.ofText t) r isComment) :
    ∃ first last : Line, (Line.ofText t)[b.startLine]? = some first ∧
      (Line.ofText t)[b.endLine]? = some last ∧ b.startLine < b.endLine := by
  obtain ⟨hopener, -, _, _, _, _, _, _, hleast, _⟩ := mem_blocks_iff.1 h
  obtain ⟨hbelow, hcloser, -⟩ := hleast.1
  obtain ⟨_, hfirst⟩ := hopener.exists_text
  obtain ⟨_, hlast⟩ := hcloser.exists_text
  obtain ⟨first, hfirst, -⟩ := Option.map_eq_some_iff.1 hfirst
  obtain ⟨last, hlast, -⟩ := Option.map_eq_some_iff.1 hlast
  exact ⟨first, last, hfirst, hlast, by omega⟩

/-- A text knows all its offsets, so no block is dropped. -/
theorem regionOf_eq_some {first last : Line} (hfirst : (Line.ofText t)[b.startLine]? = some first)
    (hlast : (Line.ofText t)[b.endLine]? = some last) :
    y.regionOf (LineReader.ofText t) b = some ⟨first.start + y.skipped first.text, last.stop,
      b.placeholder, b.startLine, b.endLine⟩ := by
  cases hy : y.regionStart <;>
    simp [regionOf, skipped, LineReader.ofText, LineReader.ofLines, hfirst, hlast, hy]

theorem isOf_of_lines {first last : Line} (hfirst : (Line.ofText t)[b.startLine]? = some first)
    (hlast : (Line.ofText t)[b.endLine]? = some last) (hlt : b.startLine < b.endLine) :
    (⟨first.start + y.skipped first.text, last.stop, b.placeholder, b.startLine,
      b.endLine⟩ : Region).IsOf t b := by
  obtain ⟨front, between, rest, ht, hstart, hend, hfeeds⟩ :=
    Line.exists_between hfirst hlast hlt
  obtain ⟨more, hskip, hsize, hmore⟩ := exists_skipped y first.text
  have hfirstfeeds : Text.newlines first.text = 0 := Line.newlines_text hfirst
  have hlastfeeds : Text.newlines last.text = 0 := Line.newlines_text hlast
  simp only [Text.size_append] at hend
  refine ⟨rfl, rfl, rfl, ⟨first, last, hfirst, hlast, ?_, ?_, ?_, rfl, ?_⟩, ?_⟩
  · exact Nat.le_add_right _ _
  · simp only [Line.stop]
    omega
  · exact Nat.lt_of_lt_of_le (Line.stop_lt_start hfirst hlast hlt) (Nat.le_add_right _ _)
  · exact Line.stop_le_size hlast
  · refine ⟨more ++ (between ++ last.text), ⟨front ++ List.replicate (y.skipped first.text) ' ',
      rest, ?_, ?_, ?_⟩, ?_⟩
    · rw [ht]
      conv_lhs => rw [hskip]
      simp
    · rw [Text.size_append, size_replicate_space, hstart]
    · simp only [Text.size_append, size_replicate_space, Line.stop]
      omega
    · simp only [Text.newlines_append]
      omega

theorem forall₂_filterMap {α β γ : Type} {R : β → γ → Prop} {f : α → Option β}
    {g : α → Option γ} {l : List α}
    (h : ∀ a ∈ l, ∃ b c, f a = some b ∧ g a = some c ∧ R b c) :
    List.Forall₂ R (l.filterMap f) (l.filterMap g) := by
  induction l with
  | nil => exact .nil
  | cons a l ih =>
    obtain ⟨b, c, hb, hc, hbc⟩ := h a (by simp)
    rw [List.filterMap_cons_some hb, List.filterMap_cons_some hc]
    exact .cons hbc (ih fun a ha => h a (List.mem_cons_of_mem _ ha))

/-- **Every block has its region, in the order of the blocks.** -/
theorem forall₂_regions (y : Layout) (t : Text) (r : LineRange) (isComment : Nat → Bool) :
    List.Forall₂ (fun b g => Region.IsOf g t b) (y.blocks (LineReader.ofText t) r isComment)
      (y.regions (LineReader.ofText t) r isComment) := by
  have hregion := forall₂_filterMap (R := fun b g => Region.IsOf g t b) (f := some)
    (g := y.regionOf (LineReader.ofText t)) (l := y.blocks (LineReader.ofText t) r isComment) ?_
  · rwa [List.filterMap_some] at hregion
  · intro b hb
    obtain ⟨first, last, hfirst, hlast, hlt⟩ := exists_lines_of_mem_blocks hb
    exact ⟨b, _, rfl, regionOf_eq_some hfirst hlast, isOf_of_lines hfirst hlast hlt⟩

/-- **Where regions begin changes nothing but their first bytes, which are spaces.** -/
theorem forall₂_skipsIndent (y : Layout) (t : Text) (r : LineRange) (isComment : Nat → Bool) :
    List.Forall₂ (Region.SkipsIndent y t)
      ({ y with regionStart := .lineStart }.regions (LineReader.ofText t) r isComment)
      ({ y with regionStart := .skipIndent }.regions (LineReader.ofText t) r isComment) := by
  refine forall₂_filterMap fun b hb => ?_
  obtain ⟨first, last, hfirst, hlast, -⟩ := exists_lines_of_mem_blocks hb
  refine ⟨_, _, regionOf_eq_some hfirst hlast, regionOf_eq_some hfirst hlast, ?_⟩
  obtain ⟨front, rest, ht, hstart, -, -⟩ := Line.exists_split hfirst
  obtain ⟨more, hmore⟩ := exists_eq_replicate_append y first.text
  refine ⟨first, hfirst, rfl, rfl, front, more ++ rest, ?_, hstart, ?_⟩
  · rw [ht]
    conv_lhs => rw [hmore]
    simp
  · rw [Text.size_append, size_replicate_space, hstart]
    rfl

/-- **The regions in a range of a text are slices of it, one for every block.** They have the lines
and placeholders of the blocks, in their order; they begin in the content of the first line and end
with that of the last, between characters of the text; and to skip the indentation moves their
first bytes over spaces and changes nothing else. No offset that is added up on the way exceeds the
text. -/
theorem regions_are_slices (y : Layout) (t : Text) (r : LineRange) (isComment : Nat → Bool) :
    let src := LineReader.ofText t
    List.Forall₂ (fun b g => Region.IsOf g t b) (y.blocks src r isComment)
        (y.regions src r isComment) ∧
      List.Forall₂ (Region.SkipsIndent y t)
        ({ y with regionStart := .lineStart }.regions src r isComment)
        ({ y with regionStart := .skipIndent }.regions src r isComment) ∧
      ∀ (i : Nat) (l : Line), (Line.ofText t)[i]? = some l →
        l.start + y.level l.text * y.width ≤ l.stop ∧ l.stop ≤ Text.size t := by
  intro src
  refine ⟨forall₂_regions y t r isComment, forall₂_skipsIndent y t r isComment, fun i l hl => ?_⟩
  exact ⟨Nat.add_le_add_left (level_mul_width_le y l.text) _, Line.stop_le_size hl⟩

/-- A block behind a character of two bytes, in lines that end in a carriage return. -/
theorem regions_are_slices_of_returns :
    let t : Text := "é\r\n  a\r\n    b\r\n  c".toList
    let g : Region := ⟨4, 19, "a...".toList, 1, 3⟩
    g.IsOf t ⟨1, 3, "a...".toList⟩ ∧
      Region.SkipsIndent { tabSize := 2 } t g ⟨6, 19, "a...".toList, 1, 3⟩ ∧
      4 + Layout.level { tabSize := 2 } "  a".toList * Layout.width { tabSize := 2 } ≤ 7 ∧
      7 ≤ Text.size t := by
  intro t g
  have hline : (Line.ofText t)[1]? = some ⟨4, "  a".toList, "\r\n".toList⟩ := by decide +kernel
  obtain ⟨hslice, hskip, hlines⟩ := regions_are_slices { tabSize := 2 } t ⟨0, 3⟩ fun _ => false
  have hblocks : Layout.blocks { tabSize := 2 } (LineReader.ofText t) ⟨0, 3⟩ (fun _ => false) =
      [⟨1, 3, "a...".toList⟩] := by decide +kernel
  have hregions : Layout.regions { tabSize := 2 } (LineReader.ofText t) ⟨0, 3⟩ (fun _ => false) =
      [g] := by decide +kernel
  have hskipped : Layout.regions { tabSize := 2, regionStart := .skipIndent }
      (LineReader.ofText t) ⟨0, 3⟩ (fun _ => false) = [⟨6, 19, "a...".toList, 1, 3⟩] := by
    decide +kernel
  rw [hblocks, hregions, List.forall₂_cons] at hslice
  rw [hregions, hskipped, List.forall₂_cons] at hskip
  exact ⟨hslice.1, hskip.1, hlines 1 _ hline⟩

end Layout

end CodeFolding
