import CodeFolding.FoldedFile
import CodeFolding.Proofs.Block.Search
import CodeFolding.Proofs.Marker
import CodeFolding.Proofs.Survey.Lines
/-!
# What the regions of a file are

The search for blocks, the markers, the scanner and the reader each number lines on their own. Main
statement: put together, every region of a file is a block of indented lines inside one of its
methods (`exists_method_of_mem_regions`).
-/
namespace CodeFolding

/-- A line that may open or close a block: it is not blank and does not begin in a comment. -/
def Line.Stands (l : Line) (ks : List PlacedToken) : Prop :=
  l.text.all isBlank = false ∧ ¬ l.BeginsInComment ks

/-- The region `g` is a block of indented lines of the text `t`, in the lines of the method `m`
that are scanned. -/
structure Region.FoldsIn (g : Region) (s : Settings) (lang : Language) (t : Text) (m : Method) :
    Prop where
  open_lt_start : m.openLine < g.startLine
  start_add_two_le : g.startLine + 2 ≤ g.endLine
  end_le_close : g.endLine ≤ m.closeLine
  scanned_first_le : (s.scanned m).first ≤ g.startLine
  le_scanned_last : g.endLine ≤ (s.scanned m).last
  /-- The first and the last line stand at one level, and the second line is indented deeper. -/
  indented : ∃ first second last : Line, (Line.ofText t)[g.startLine]? = some first ∧
    (Line.ofText t)[g.startLine + 1]? = some second ∧ (Line.ofText t)[g.endLine]? = some last ∧
    s.layout.level first.text = s.layout.level last.text ∧
    s.layout.level first.text < s.layout.level second.text ∧
    first.Stands (lang.placed t) ∧ last.Stands (lang.placed t)

variable {lang : Language} {t : Text} {m : Method} {s : Settings}

/-- The lines that are scanned lie behind the opening brace and do not pass the closing one. -/
theorem scanned_bounds (h : m ∈ (Survey.ofText lang t).methods) :
    m.openLine < (s.scanned m).first ∧ (s.scanned m).last ≤ m.closeLine := by
  have hin := (liesIn_of_mem_methods h).comments_inside
  constructor
  · rcases MarkerPair.narrow_first s.markers m.comments m.body with heq | ⟨c, hc, heq⟩
    · rw [Settings.scanned, heq]
      exact Nat.lt_succ_self _
    · rw [Settings.scanned, heq]
      exact Nat.lt_succ_of_le (hin c hc).1
  · rcases MarkerPair.narrow_last s.markers m.comments m.body with heq | ⟨c, hc, heq⟩
    · rw [Settings.scanned, heq]
      exact Nat.le_refl _
    · rw [Settings.scanned, heq]
      exact Nat.le_of_lt (hin c hc).2

theorem exists_line_of_text? {i : Nat} {u : Text}
    (h : (LineReader.ofText t).text? i = some u) :
    ∃ l, (Line.ofText t)[i]? = some l ∧ l.text = u :=
  Option.map_eq_some_iff.1 h

theorem stands_of_standsAt {y : Layout} {i level : Nat}
    (h : y.StandsAt (LineReader.ofText t) (Survey.ofText lang t).isComment i level) :
    ∃ l, (Line.ofText t)[i]? = some l ∧ l.Stands (lang.placed t) ∧ y.level l.text = level := by
  obtain ⟨hcomment, u, hu, hblank, hlevel⟩ := h
  obtain ⟨l, hl, rfl⟩ := exists_line_of_text? hu
  refine ⟨l, hl, ⟨hblank, ?_⟩, hlevel⟩
  rw [← Survey.isComment_iff hl, hcomment]
  simp

theorem lines_of_regionOf {y : Layout} {src : LineReader} {b : Block} {g : Region}
    (h : y.regionOf src b = some g) : g.startLine = b.startLine ∧ g.endLine = b.endLine := by
  have hend : ∀ startOffset, ((src.stop? b.endLine).bind fun endOffset =>
      some (⟨startOffset, endOffset, b.placeholder, b.startLine, b.endLine⟩ : Region)) = some g →
      g.startLine = b.startLine ∧ g.endLine = b.endLine := by
    intro startOffset hg
    obtain ⟨endOffset, -, hg⟩ := Option.bind_eq_some_iff.1 hg
    obtain rfl := Option.some.inj hg
    exact ⟨rfl, rfl⟩
  obtain ⟨start, -, h⟩ := Option.bind_eq_some_iff.1 h
  split at h
  · exact hend start h
  · obtain ⟨startOffset, -, h⟩ := Option.bind_eq_some_iff.1 h
    exact hend startOffset h

/-- The regions of a file are those of its methods, if it is activated. -/
theorem regions_foldText (s : Settings) (path : String) (t : Text) (ext : String) :
    let lang := Language.ofExtension ext
    let v := Survey.ofText lang t
    (foldText s path t ext).regions =
      if lang = .braces ∧ v.isSwitchedOn s = true then
        v.methods.flatMap fun m =>
          s.layout.regions (LineReader.ofText t) (s.scanned m) v.isComment
      else [] := by
  intro lang v
  simp only [foldText]
  split
  next hlang =>
    split
    next hon => rw [if_pos ⟨hlang, hon⟩]
    next hoff => rw [if_neg fun h => hoff h.2]
  next hlang => rw [if_neg fun h => hlang h.1]

/-- The regions of a file come from the search in the lines of its methods. -/
theorem exists_block_of_mem_regions {path ext : String} {g : Region}
    (h : g ∈ (foldText s path t ext).regions) :
    ∃ m ∈ (Survey.ofText (Language.ofExtension ext) t).methods,
      ∃ b ∈ s.layout.blocks (LineReader.ofText t) (s.scanned m)
        (Survey.ofText (Language.ofExtension ext) t).isComment,
      g.startLine = b.startLine ∧ g.endLine = b.endLine := by
  rw [regions_foldText] at h
  split at h
  · obtain ⟨m, hm, hg⟩ := List.mem_flatMap.1 h
    obtain ⟨b, hb, hg⟩ := List.mem_filterMap.1 hg
    exact ⟨m, hm, b, hb, lines_of_regionOf hg⟩
  · simp at h

/-- **Every region of a file is a block of indented lines inside a method.** -/
theorem exists_method_of_mem_regions {path ext : String} {g : Region}
    (h : g ∈ (foldText s path t ext).regions) :
    ∃ m ∈ (Survey.ofText (Language.ofExtension ext) t).methods,
      g.FoldsIn s (Language.ofExtension ext) t m := by
  obtain ⟨m, hm, b, hb, hstart, hend⟩ := exists_block_of_mem_regions h
  obtain ⟨hreach, -, u, v, hu, hv, hopens, hdeep, hleast, -⟩ := Layout.mem_blocks_iff.1 hb
  obtain ⟨hbelow, hlast, hcloses⟩ := hleast.1
  obtain ⟨hfirst, hstop⟩ := scanned_bounds (s := s) hm
  obtain ⟨opener, hopener, hostands, holevel⟩ := stands_of_standsAt hopens
  obtain ⟨closer, hcloser, hcstands, hclevel⟩ := stands_of_standsAt hcloses
  obtain ⟨second, hsecond, rfl⟩ := exists_line_of_text? hv
  have hscanned := hreach.1
  have hend' := hlast.2.1
  refine ⟨m, hm, ?_⟩
  refine ⟨by omega, by omega, by omega, by omega, by omega, opener, second, closer, ?_⟩
  rw [hstart, hend, holevel, hclevel]
  exact ⟨hopener, hsecond, hcloser, rfl, hdeep, hostands, hcstands⟩

/-- A method with one block. -/
theorem exists_method_of_mem_regions_java :
    ∃ m ∈ (Survey.ofText (Language.ofExtension "java")
        "int f() \x7b\na();\n    b();\nc();\n\x7d".toList).methods,
      (⟨10, 28, "a();...".toList, 1, 3⟩ : Region).FoldsIn { requireActivation := false }
        (Language.ofExtension "java") "int f() \x7b\na();\n    b();\nc();\n\x7d".toList m := by
  have hmem : (⟨10, 28, "a();...".toList, 1, 3⟩ : Region) ∈
      (foldText { requireActivation := false } "A.java"
        "int f() \x7b\na();\n    b();\nc();\n\x7d".toList "java").regions := by
    decide +kernel
  exact exists_method_of_mem_regions hmem

end CodeFolding
