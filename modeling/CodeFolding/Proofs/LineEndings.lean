import CodeFolding.FoldedFile
import CodeFolding.Proofs.Block.Region
import CodeFolding.Proofs.Survey.Returns
/-!
# Folds and the two ways to end a line

A file folds alike whether its lines end in a line feed or in a carriage return and a line feed.
Main statement: activation, the number of methods and the folds by lines and placeholders are the
same for both (`foldText_withReturns`), if no string goes on behind the end of a line. If one does,
they may differ (`foldText_withReturns_of_continued`): the backslash takes the return, and the
string ends in front of the line feed.
-/
namespace CodeFolding

/-! ## Lines -/

namespace Line

theorem text_finish {reversed : Text} (h : reversed.head? ≠ some '\r') (start : Nat) (feed : Text) :
    (finish start reversed feed).text = reversed.reverse := by
  cases reversed with
  | nil => rfl
  | cons c rest =>
    have hc : c ≠ '\r' := by simpa using h
    simp [finish, hc]

theorem map_text_cut_withReturns {t reversed : Text} (ht : '\r' ∉ t) (hreversed : '\r' ∉ reversed)
    (start start' : Nat) {done done' : Array Line} (hdone : done'.map text = done.map text) :
    (cut (Text.withReturns t) start' reversed done').map text =
      (cut t start reversed done).map text := by
  have htext : ∀ {reversed : Text} (start : Nat) (feed : Text), '\r' ∉ reversed →
      (finish start reversed feed).text = reversed.reverse :=
    fun start feed h => text_finish (fun hhead => h (List.mem_of_head? hhead)) start feed
  induction t generalizing start start' reversed done done' with
  | nil =>
    have hsize := congrArg Array.size hdone
    rw [Array.size_map, Array.size_map] at hsize
    rw [Text.withReturns_nil, cut, cut, Array.isEmpty, Array.isEmpty, hsize]
    split
    · exact hdone
    · rw [Array.map_push, Array.map_push, hdone, htext _ _ hreversed, htext _ _ hreversed]
  | cons c t ih =>
    rw [List.mem_cons, not_or] at ht
    by_cases hc : c = '\n'
    · subst hc
      rw [Text.withReturns_feed, cut, if_neg (by decide), cut, if_pos rfl, cut, if_pos rfl]
      refine ih ht.2 (by simp) _ _ ?_
      rw [Array.map_push, Array.map_push, hdone, htext _ _ hreversed]
      rfl
    · rw [Text.withReturns_cons hc, cut, if_neg hc, cut, if_neg hc]
      refine ih ht.2 ?_ _ _ hdone
      rw [List.mem_cons, not_or]
      exact ⟨ht.1, hreversed⟩

end Line

/-- **The lines of both texts have the same contents.** -/
theorem LineReader.ofText_withReturns {t : Text} (h : '\r' ∉ t) :
    (ofText (Text.withReturns t)).count = (ofText t).count ∧
      (ofText (Text.withReturns t)).text? = (ofText t).text? := by
  have hlines : (Line.ofText (Text.withReturns t)).map Line.text = (Line.ofText t).map Line.text :=
    Line.map_text_cut_withReturns h (by simp) 0 0 rfl
  constructor
  · have hsize := congrArg Array.size hlines
    rwa [Array.size_map, Array.size_map] at hsize
  · funext i
    have hline := congrArg (fun lines : Array Text => lines[i]?) hlines
    simpa [ofText, ofLines] using hline

/-! ## Folds by lines -/

def Region.block (g : Region) : Block := ⟨g.startLine, g.endLine, g.placeholder⟩

namespace Layout

theorem map_block_regions (y : Layout) (t : Text) (r : LineRange) (isComment : Nat → Bool) :
    (y.regions (LineReader.ofText t) r isComment).map Region.block =
      y.blocks (LineReader.ofText t) r isComment := by
  have hregions := forall₂_regions y t r isComment
  symm
  rw [← List.forall₂_eq_eq_eq, List.forall₂_map_right_iff]
  refine hregions.imp fun b g h => ?_
  rw [Region.block, h.startLine_eq, h.endLine_eq, h.placeholder_eq]

theorem blocks_congr (y : Layout) {src src' : LineReader} (hcount : src'.count = src.count)
    (htext : src'.text? = src.text?) (r : LineRange) (isComment : Nat → Bool) :
    y.blocks src' r isComment = y.blocks src r isComment := by
  rw [blocks_eq, blocks_eq, LineReader.run, LineReader.run, hcount, htext]

end Layout

theorem Survey.isSwitchedOn_withReturns {v v' : Survey} {s : Settings}
    (hfeed : '\n' ∉ s.activation) (hreturn : '\r' ∉ s.activation)
    (h : v'.docComments = v.docComments.map Text.withReturns) :
    v'.isSwitchedOn s = v.isSwitchedOn s := by
  rw [isSwitchedOn, isSwitchedOn, h, List.head?_map, Option.any_map]
  simp only [Text.holds_withReturns hfeed hreturn]

/-- **A file folds alike with both ways to end a line**: it is activated alike, has as many methods
and has the same folds, by lines and placeholders. The activation marker may hold neither a return
nor a line feed, and no string may go on behind the end of its line. -/
theorem foldText_withReturns (s : Settings) (path : String) {t : Text} (ext : String)
    (ht : '\r' ∉ t) (hfeed : '\n' ∉ s.activation) (hreturn : '\r' ∉ s.activation)
    (hcontinued : ∀ k ∈ (Language.ofExtension ext).tokens t, k.isContinued = false) :
    let folded := foldText s path t ext
    let returned := foldText s path (Text.withReturns t) ext
    returned.activated = folded.activated ∧ returned.methodCount = folded.methodCount ∧
      returned.regions.map Region.block = folded.regions.map Region.block := by
  intro folded returned
  by_cases hl : Language.ofExtension ext = .braces
  · rw [hl] at hcontinued
    obtain ⟨hmethods, hflags, hdocs⟩ := survey_withReturns hcontinued
    obtain ⟨hcount, htext⟩ := LineReader.ofText_withReturns ht
    have hswitch := Survey.isSwitchedOn_withReturns hfeed hreturn hdocs
    simp only [folded, returned, foldText, hl, if_pos, hswitch]
    split
    · refine ⟨rfl, by rw [hmethods, List.length_map], ?_⟩
      rw [List.map_flatMap, List.map_flatMap, hmethods, List.flatMap_map]
      refine List.flatMap_congr fun m _ => ?_
      have hcomment : (Survey.ofText .braces (Text.withReturns t)).isComment =
          (Survey.ofText .braces t).isComment := by
        funext line
        rw [Survey.isComment, Survey.isComment, hflags]
      rw [Layout.map_block_regions, Layout.map_block_regions, hcomment]
      exact s.layout.blocks_congr hcount htext (s.scanned m) _
    · exact ⟨rfl, by rw [hmethods, List.length_map], rfl⟩
  · simp [folded, returned, foldText, hl]

/-- A string, a comment and a character literal at ends of lines. -/
theorem foldText_withReturns_java :
    let s : Settings := { requireActivation := false }
    let t : Text := "int f() \x7b // \x7d\na(\"\x7b\n    b('\x7b');\nc();\n\x7d\n".toList
    '\r' ∉ t ∧ '\n' ∉ s.activation ∧ '\r' ∉ s.activation ∧
      (∀ k ∈ (Language.ofExtension "java").tokens t, k.isContinued = false) ∧
      (foldText s "" (Text.withReturns t) "java").activated = true ∧
      (foldText s "" (Text.withReturns t) "java").methodCount = 1 ∧
      (foldText s "" (Text.withReturns t) "java").regions.map Region.block =
        [⟨1, 3, "a(\"\x7b...".toList⟩] := by
  intro s t
  have ht : '\r' ∉ t := by decide +kernel
  have hfeed : '\n' ∉ s.activation := by decide +kernel
  have hreturn : '\r' ∉ s.activation := by decide +kernel
  have hcontinued : ∀ k ∈ (Language.ofExtension "java").tokens t, k.isContinued = false := by
    decide +kernel
  obtain ⟨hactivated, hcount, hregions⟩ :=
    foldText_withReturns s "" "java" ht hfeed hreturn hcontinued
  have hfolded : foldText s "" t "java" =
      ⟨"", true, 1, [⟨15, 36, "a(\"\x7b...".toList, 1, 3⟩]⟩ := by
    decide +kernel
  rw [hfolded] at hactivated hcount hregions
  exact ⟨ht, hfeed, hreturn, hcontinued, hactivated, hcount, hregions⟩

/-- With returns, a string that goes on behind the end of its line ends there, and the brace in its
second half closes the method. -/
theorem foldText_withReturns_of_continued :
    let s : Settings := { requireActivation := false }
    let t : Text := "int f() \x7b\ns = \"\\\n\x7d\";\na();\n    b();\nc();\n\x7d\n".toList
    '\r' ∉ t ∧ '\n' ∉ s.activation ∧ '\r' ∉ s.activation ∧
      (foldText s "" t "c").regions.map Region.block = [⟨3, 5, "a();...".toList⟩] ∧
      (foldText s "" (Text.withReturns t) "c").regions = [] := by
  decide +kernel

end CodeFolding
