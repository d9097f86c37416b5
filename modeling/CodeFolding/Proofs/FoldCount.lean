import CodeFolding.Proofs.Block.Local
import CodeFolding.Proofs.Block.Region
import CodeFolding.Proofs.FoldedFile
import CodeFolding.Proofs.FoldedProject
import Mathlib.Algebra.BigOperators.Group.List.Lemmas
/-!
# How often a fold is reported

Methods may lie in one another, and each is searched for blocks on its own. So a file reports a
fold once for every method whose scanned lines hold it, and reports no fold twice unless it lies in
two methods. Main statement: `regions_count_methods`.
-/
namespace CodeFolding

/-! ## The regions of a range -/

/-- The offsets of the bytes that fold away. -/
def Region.span (g : Region) : Nat × Nat := (g.startOffset, g.endOffset)

namespace Layout

variable {y : Layout} {src : LineReader} {t : Text} {r r' : LineRange} {isComment : Nat → Bool}
  {g h : Region}

theorem regions_eq_filter (hfull : src.IsFull)
    (h : ∀ i < src.count, r'.contains i = true → r.contains i = true) :
    y.regions src r' isComment =
      (y.regions src r isComment).filter fun g => r'.encloses g.startLine g.endLine := by
  rw [regions, regions, blocks_eq_filter hfull h, List.filterMap_filter, List.filter_filterMap]
  refine List.filterMap_congr fun b _ => ?_
  cases hg : y.regionOf src b with
  | none => simp
  | some g =>
    obtain ⟨hstart, hend⟩ := lines_of_regionOf hg
    rw [Option.filter_some, hstart, hend]

theorem exists_isOf_of_mem_regions (h : g ∈ y.regions (LineReader.ofText t) r isComment) :
    ∃ b ∈ y.blocks (LineReader.ofText t) r isComment, g.IsOf t b := by
  obtain ⟨b, hb, hg⟩ := List.mem_filterMap.1 h
  obtain ⟨first, last, hfirst, hlast, hlt⟩ := exists_lines_of_mem_blocks hb
  rw [regionOf_eq_some hfirst hlast] at hg
  exact ⟨b, hb, Option.some.inj hg ▸ isOf_of_lines hfirst hlast hlt⟩

/-- **The regions of a range of a text come by ascending offset.** -/
theorem pairwise_startOffset_regions (y : Layout) (t : Text) (r : LineRange)
    (isComment : Nat → Bool) :
    (y.regions (LineReader.ofText t) r isComment).Pairwise
      fun g h => g.startOffset < h.startOffset := by
  have hlines : (y.regions (LineReader.ofText t) r isComment).Pairwise
      fun g h => g.startLine < h.startLine := by
    refine (pairwise_blocks y (LineReader.ofText t) r isComment).filterMap _
      fun b c hbc g hg h hh => ?_
    rwa [(lines_of_regionOf hg).1, (lines_of_regionOf hh).1]
  refine hlines.imp_of_mem fun hg hh hlt => ?_
  -- the earlier region begins in its first line, and that ends before the later one's begins
  obtain ⟨b, -, hb⟩ := exists_isOf_of_mem_regions hg
  obtain ⟨c, -, hc⟩ := exists_isOf_of_mem_regions hh
  obtain ⟨first, -, hfirst, -, -, hstop, -⟩ := hb.offsets
  obtain ⟨second, -, hsecond, -, hstart, -⟩ := hc.offsets
  have := Line.stop_lt_start hfirst hsecond hlt
  omega

theorem nodup_regions (y : Layout) (t : Text) (r : LineRange) (isComment : Nat → Bool) :
    (y.regions (LineReader.ofText t) r isComment).Nodup :=
  (pairwise_startOffset_regions y t r isComment).imp fun hlt heq => by
    rw [heq] at hlt
    exact Nat.lt_irrefl _ hlt

end Layout

/-! ## The regions of a file -/

/-- The methods whose scanned lines hold all lines of a region. -/
def Survey.enclosing (v : Survey) (s : Settings) (g : Region) : List Method :=
  v.methods.filter fun m => (s.scanned m).encloses g.startLine g.endLine

/-- All regions a file would have if it were one method. -/
def Settings.candidates (s : Settings) (lang : Language) (t : Text) : List Region :=
  let src := LineReader.ofText t
  s.layout.regions src ⟨0, src.count⟩ (Survey.ofText lang t).isComment

variable {s : Settings} {lang : Language} {path ext : String} {t : Text} {m n : Method}
  {g h : Region}

theorem regions_scanned_eq_filter (s : Settings) (lang : Language) (t : Text) (m : Method) :
    s.layout.regions (LineReader.ofText t) (s.scanned m) (Survey.ofText lang t).isComment =
      (s.candidates lang t).filter fun g => (s.scanned m).encloses g.startLine g.endLine := by
  refine Layout.regions_eq_filter (LineReader.isFull_ofText t) fun i hi _ => ?_
  exact LineRange.contains_iff.2 ⟨Nat.zero_le i, Nat.le_of_lt hi⟩

/-- The regions of an activated file are the candidates that lie in its methods, method for
method. -/
theorem regions_foldText_eq_flatMap_filter (s : Settings) (path : String) (t : Text)
    (ext : String) :
    let lang := Language.ofExtension ext
    let v := Survey.ofText lang t
    (foldText s path t ext).regions =
      if lang = .braces ∧ v.isSwitchedOn s = true then
        v.methods.flatMap fun m => (s.candidates lang t).filter fun g =>
          (s.scanned m).encloses g.startLine g.endLine
      else [] := by
  intro lang v
  rw [regions_foldText]
  simp only [regions_scanned_eq_filter]
  rfl

theorem mem_candidates_of_mem_regions (h : g ∈ (foldText s path t ext).regions) :
    g ∈ s.candidates (Language.ofExtension ext) t := by
  rw [regions_foldText_eq_flatMap_filter] at h
  split at h
  · obtain ⟨m, -, hg⟩ := List.mem_flatMap.1 h
    exact (List.mem_filter.1 hg).1
  · simp at h

theorem nodup_candidates (s : Settings) (lang : Language) (t : Text) :
    (s.candidates lang t).Nodup :=
  Layout.nodup_regions _ _ _ _

/-- Two folds of a file that begin at one offset are one fold. -/
theorem eq_of_startOffset_eq (hg : g ∈ s.candidates lang t) (hh : h ∈ s.candidates lang t)
    (heq : g.startOffset = h.startOffset) : g = h := by
  have hpairwise := Layout.pairwise_startOffset_regions s.layout t
    ⟨0, (LineReader.ofText t).count⟩ (Survey.ofText lang t).isComment
  rcases eq_or_of_pairwise hpairwise hg hh with heq' | hlt | hlt
  · exact heq'
  · omega
  · omega

theorem add_two_le_of_mem_candidates (h : g ∈ s.candidates lang t) :
    g.startLine + 2 ≤ g.endLine := by
  obtain ⟨b, hb, hg⟩ := Layout.exists_isOf_of_mem_regions h
  rw [hg.startLine_eq, hg.endLine_eq]
  exact (Layout.mem_blocks_iff.1 hb).add_two_le

/-! ## Counting -/

theorem count_flatMap_filter {α β : Type} [DecidableEq β] {l : List β} {a : β} (hl : l.Nodup)
    (ha : a ∈ l) (p : α → β → Bool) (parts : List α) :
    (parts.flatMap fun m => l.filter (p m)).count a = (parts.filter fun m => p m a).length := by
  induction parts with
  | nil => rfl
  | cons m parts ih =>
    rw [List.flatMap_cons, List.count_append, ih]
    by_cases hm : p m a = true
    · rw [List.count_filter hm, List.count_eq_one_of_mem hl ha, List.filter_cons, if_pos hm,
        List.length_cons, Nat.add_comm]
    · have hout : a ∉ l.filter (p m) := fun hin => hm (List.mem_filter.1 hin).2
      rw [List.count_eq_zero_of_not_mem hout, List.filter_cons, if_neg hm, Nat.zero_add]

/-- A file reports a fold once for every method whose scanned lines hold it. -/
theorem count_regions (h : g ∈ (foldText s path t ext).regions) :
    (foldText s path t ext).regions.count g =
      ((Survey.ofText (Language.ofExtension ext) t).enclosing s g).length := by
  have hg := mem_candidates_of_mem_regions h
  rw [regions_foldText_eq_flatMap_filter] at h ⊢
  split at h
  next hon =>
    rw [if_pos hon, count_flatMap_filter (nodup_candidates _ _ _) hg]
    rfl
  next => simp at h

/-- A method that has ended where another begins closes on no later line. -/
theorem closeLine_le_openLine (hm : m ∈ (Survey.ofText .braces t).methods)
    (hn : n ∈ (Survey.ofText .braces t).methods) (hlt : m.closeOffset < n.openOffset) :
    m.closeLine ≤ n.openLine := by
  obtain ⟨-, p, hp⟩ := Survey.exists_pair_of_mem_methods hm
  obtain ⟨-, q, hq⟩ := Survey.exists_pair_of_mem_methods hn
  obtain ⟨-, hclose⟩ := Prod.mk.inj hp.span_eq
  obtain ⟨hopen, -⟩ := Prod.mk.inj hq.span_eq
  rw [hclose, hopen] at hlt
  rw [hp.closeLine_eq, hq.openLine_eq]
  exact Nat.le_trans (Nat.le_add_right _ _)
    (Language.endLine_le_of_offset_lt hp.partners.mem.2 hq.partners.mem.1 hlt)

/-- **Of two methods that hold one fold, the one that begins first holds the other.** -/
theorem encloses_of_common (hm : m ∈ (Survey.ofText .braces t).methods)
    (hn : n ∈ (Survey.ofText .braces t).methods) (hlt : m.openOffset < n.openOffset)
    (hg : g ∈ s.candidates .braces t)
    (hgm : (s.scanned m).encloses g.startLine g.endLine = true)
    (hgn : (s.scanned n).encloses g.startLine g.endLine = true) :
    m.encloses n.openOffset = true := by
  rw [Method.encloses, Bool.and_eq_true, decide_eq_true_eq, decide_eq_true_eq]
  refine ⟨hlt, Nat.lt_of_not_le fun hle => ?_⟩
  have hmlt := Survey.open_lt_close hm
  have hnlt := Survey.open_lt_close hn
  -- the second would begin behind the first, and the fold would end before it begins
  have hafter : m.closeOffset < n.openOffset := by
    rcases eq_or_of_pairwise (Survey.pairwise_apart_methods t) hm hn with rfl | hapart | hapart
    · omega
    · simp only [Apart, Method.span] at hapart
      omega
    · simp only [Apart, Method.span] at hapart
      omega
  have hlines := closeLine_le_openLine hm hn hafter
  have hlast := (scanned_bounds (s := s) hm).2
  have hfirst := (scanned_bounds (s := s) hn).1
  have htwo := add_two_le_of_mem_candidates hg
  rw [LineRange.encloses_iff] at hgm hgn
  omega

/-- **If no method begins inside another, no fold is reported twice.** -/
theorem nodup_regions_foldText
    (hflat : ∀ m ∈ (Survey.ofText (Language.ofExtension ext) t).methods,
      ∀ n ∈ (Survey.ofText (Language.ofExtension ext) t).methods,
        m.encloses n.openOffset = false) :
    (foldText s path t ext).regions.Nodup := by
  rw [regions_foldText_eq_flatMap_filter]
  split
  next hon =>
    rw [hon.1] at hflat ⊢
    rw [List.nodup_flatMap]
    refine ⟨fun m _ => (nodup_candidates s .braces t).filter _, ?_⟩
    refine (Survey.pairwise_openOffset_methods t).imp_of_mem fun hm hn hlt => ?_
    intro g hgm hgn
    obtain ⟨hg, hgm⟩ := List.mem_filter.1 hgm
    have henc := encloses_of_common hm hn hlt hg hgm (List.mem_filter.1 hgn).2
    rw [hflat _ hm _ hn] at henc
    cases henc
  next => exact List.nodup_nil

theorem pairwise_span_ne_iff :
    ((foldText s path t ext).regions.Pairwise fun g h => g.span ≠ h.span) ↔
      (foldText s path t ext).regions.Nodup := by
  constructor
  · intro hpairwise
    exact hpairwise.imp fun hne heq => hne (congrArg Region.span heq)
  · intro hnodup
    refine List.Pairwise.imp_of_mem (fun hg hh hne heq => hne ?_) hnodup
    exact eq_of_startOffset_eq (mem_candidates_of_mem_regions hg)
      (mem_candidates_of_mem_regions hh) (congrArg Prod.fst heq)

/-- A file, of which `v` is the survey, reports its folds by the methods that hold them. -/
structure FoldedFile.CountsFolds (r : FoldedFile) (s : Settings) (v : Survey) : Prop where
  /-- A fold is reported once for every method whose scanned lines hold it. -/
  count_eq : ∀ g ∈ r.regions, r.regions.count g = (v.enclosing s g).length
  /-- Folds that begin at one offset are one fold. -/
  eq_of_startOffset_eq : ∀ g ∈ r.regions, ∀ h ∈ r.regions, g.startOffset = h.startOffset → g = h
  /-- So their number counts each fold once for every such method. -/
  length_eq : r.regions.length = (r.regions.dedup.map fun g => (v.enclosing s g).length).sum
  /-- Reports differ in their bytes just if no fold lies in two methods. -/
  distinct_iff : (r.regions.Pairwise fun g h => g.span ≠ h.span) ↔
    ∀ g ∈ r.regions, (v.enclosing s g).length = 1
  /-- They do if no method begins inside another. -/
  distinct_of_flat : (∀ m ∈ v.methods, ∀ n ∈ v.methods, m.encloses n.openOffset = false) →
    r.regions.Pairwise fun g h => g.span ≠ h.span

theorem countsFolds_foldText (s : Settings) (path : String) (t : Text) (ext : String) :
    (foldText s path t ext).CountsFolds s (Survey.ofText (Language.ofExtension ext) t) := by
  refine ⟨fun g => count_regions, ?_, ?_, ?_, ?_⟩
  · intro g hg h hh
    exact eq_of_startOffset_eq (mem_candidates_of_mem_regions hg) (mem_candidates_of_mem_regions hh)
  · rw [← List.sum_map_count_dedup_eq_length]
    refine congrArg List.sum (List.map_congr_left fun g hg => ?_)
    exact count_regions (List.mem_dedup.1 hg)
  · rw [pairwise_span_ne_iff, List.nodup_iff_count_eq_one]
    refine forall₂_congr fun g hg => ?_
    rw [count_regions hg]
  · exact fun hflat => pairwise_span_ne_iff.2 (nodup_regions_foldText hflat)

/-- **A fold is reported once for every method that holds it.** So the regions of a file are
distinct just if no fold lies in the scanned lines of two methods, as when no method begins inside
another; and the files of a project, whose regions are counted, report their folds in this way. -/
theorem regions_count_methods (s : Settings) :
    (∀ (path : String) (t : Text) (ext : String),
      (foldText s path t ext).CountsFolds s (Survey.ofText (Language.ofExtension ext) t)) ∧
    ∀ (filter : String → Bool) (delivered : List FoundFile),
      (s.foldAll filter delivered).regionCount =
        ((s.foldAll filter delivered).files.map (·.regions.length)).sum ∧
      ∀ r ∈ (s.foldAll filter delivered).files, ∃ f ∈ delivered, ∃ t,
        f.content = (String.ofList t).toUTF8 ∧
          r.CountsFolds s (Survey.ofText (Language.ofExtension f.extension) t) := by
  refine ⟨countsFolds_foldText s, fun filter delivered =>
    ⟨s.regionCount_foldAll filter delivered, fun r hr => ?_⟩⟩
  have hmem := (Settings.files_foldAll_perm s filter delivered).subset hr
  obtain ⟨f, hf, hlisted⟩ := List.mem_filterMap.1 hmem
  obtain ⟨t, hcontent, rfl⟩ := (Settings.listing?_eq_some_iff.1 hlisted).folded
  exact ⟨f, hf, t, hcontent, countsFolds_foldText s f.path t f.extension⟩

/-- A method inside another: both report the fold of the inner one. -/
theorem regions_of_nested :
    (foldText { requireActivation := false } "a.js"
      "function f() \x7b\nfunction g() \x7b\na();\n    b();\nc();\n\x7d\n\x7d\n".toList "js").regions =
      [⟨30, 48, "a();...".toList, 2, 4⟩, ⟨30, 48, "a();...".toList, 2, 4⟩] := by
  have hmethods : (Survey.ofText .braces
      "function f() \x7b\nfunction g() \x7b\na();\n    b();\nc();\n\x7d\n\x7d\n".toList).methods =
      [⟨"f".toList, 0, 0, 6, 13, 51, []⟩, ⟨"g".toList, 1, 1, 5, 28, 49, []⟩] :=
    Survey.methods_eq_of_perm (by decide +kernel) (by decide +kernel)
  have hjs : Language.ofExtension "js" = .braces := by decide
  rw [regions_foldText, hjs, if_pos (by decide +kernel), hmethods]
  decide +kernel

/-- The fold of a method inside another is counted twice, in a file and in a project; methods side
by side report distinct folds. -/
theorem regions_count_methods_of_nested :
    let s : Settings := { requireActivation := false }
    let nested : Text :=
      "function f() \x7b\nfunction g() \x7b\na();\n    b();\nc();\n\x7d\n\x7d\n".toList
    let flat : Text := "int f() \x7b\x7d\nint g() \x7b\na();\n    b();\nc();\n\x7d\n".toList
    let g : Region := ⟨30, 48, "a();...".toList, 2, 4⟩
    let v := Survey.ofText (Language.ofExtension "js") nested
    let w := Survey.ofText (Language.ofExtension "java") flat
    let delivered : List FoundFile := [⟨"a.js", "js", (String.ofList nested).toUTF8⟩]
    (g ∈ (foldText s "a.js" nested "js").regions ∧ (v.enclosing s g).length = 2) ∧
      ((∀ m ∈ w.methods, ∀ n ∈ w.methods, m.encloses n.openOffset = false) ∧
        (foldText s "A.java" flat "java").regions.Pairwise fun g h => g.span ≠ h.span) ∧
      ∃ r ∈ (s.foldAll (fun _ => true) delivered).files, ∃ f ∈ delivered, ∃ t,
        f.content = (String.ofList t).toUTF8 ∧
          r.CountsFolds s (Survey.ofText (Language.ofExtension f.extension) t) := by
  intro s nested flat g v w delivered
  obtain ⟨hfile, hproject⟩ := regions_count_methods s
  have hregions : (foldText s "a.js" nested "js").regions = [g, g] := regions_of_nested
  have hg : g ∈ (foldText s "a.js" nested "js").regions := by simp [hregions]
  have hmethods : w.methods =
      [⟨"f".toList, 0, 0, 0, 8, 9, []⟩, ⟨"g".toList, 1, 1, 5, 19, 40, []⟩] :=
    Survey.methods_eq_of_perm (by decide +kernel) (by decide +kernel)
  have hflat : ∀ m ∈ w.methods, ∀ n ∈ w.methods, m.encloses n.openOffset = false := by
    rw [hmethods]
    decide
  have hlisted : foldText s "a.js" nested "js" ∈ (s.foldAll (fun _ => true) delivered).files := by
    refine (Settings.files_foldAll_perm s _ delivered).mem_iff.2 (List.mem_filterMap.2 ?_)
    refine ⟨_, List.mem_singleton_self _, Settings.listing?_eq_some_iff.2 ?_⟩
    exact ⟨by decide +kernel, rfl, by decide +kernel, ⟨nested, rfl, rfl⟩, by decide +kernel⟩
  refine ⟨⟨hg, ?_⟩, ⟨hflat, (hfile "A.java" flat "java").distinct_of_flat hflat⟩, _, hlisted,
    (hproject (fun _ => true) delivered).2 _ hlisted⟩
  rw [← (hfile "a.js" nested "js").count_eq g hg, hregions]
  decide

/-- With one method inside another, two regions of a file fold the same bytes. -/
theorem regions_repeat_of_nested :
    Language.ofExtension "js" = .braces ∧
      ¬ (foldText { requireActivation := false } "a.js"
        "function f() \x7b\nfunction g() \x7b\na();\n    b();\nc();\n\x7d\n\x7d\n".toList
        "js").regions.Pairwise fun g h => g.span ≠ h.span := by
  refine ⟨by decide, ?_⟩
  rw [regions_of_nested]
  decide

end CodeFolding
