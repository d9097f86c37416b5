import CodeFolding.Proofs.FoldedProject
import CodeFolding.Proofs.Tree.Path
import Mathlib.Data.List.Nodup
/-!
# Files in any order

A walk delivers files in any order, and the list of a folded project is sorted by the paths that
files are reported under. The sort keeps files under one path as they are delivered, so the order
of delivery shows in these files and nowhere else. Paths are reported as texts, with slashes for
backslashes: where all names are texts without a backslash, no two files are reported under one
path. Main statement: `foldAll_of_perm`.
-/
namespace CodeFolding

/-! ## Sorting by a key -/

theorem filter_mergeSort {α : Type} {le : α → α → Bool}
    (trans : ∀ a b c, le a b = true → le b c = true → le a c = true)
    (total : ∀ a b, (le a b || le b a) = true) {l : List α} {p : α → Bool}
    (h : (l.filter p).Pairwise fun a b => le a b = true) :
    (l.mergeSort le).filter p = l.filter p := by
  have hsub : (l.filter p).Sublist (l.mergeSort le) :=
    List.sublist_mergeSort trans total h List.filter_sublist
  have hkept : (l.filter p).Sublist ((l.mergeSort le).filter p) := by
    simpa using hsub.filter p
  exact (hkept.eq_of_length ((List.mergeSort_perm l le).filter p).length_eq.symm).symm

theorem eq_of_filter_key_eq {α : Type} {key : α → String} {l l' : List α}
    (hl : l.Pairwise fun a b => key a ≤ key b) (hl' : l'.Pairwise fun a b => key a ≤ key b)
    (h : ∀ k, (l.filter (key · = k)) = l'.filter (key · = k)) : l = l' := by
  have hmem : ∀ a, a ∈ l ↔ a ∈ l' := by
    intro a
    have ha : a ∈ l.filter (key · = key a) ↔ a ∈ l'.filter (key · = key a) := by rw [h]
    simpa using ha
  induction l generalizing l' with
  | nil => exact (List.eq_nil_iff_forall_not_mem.2 fun a ha => by simpa using (hmem a).2 ha).symm
  | cons a l ih =>
    cases l' with
    | nil => simpa using (hmem a).1 List.mem_cons_self
    | cons b l' =>
      -- both heads have the least key
      have hab : key a = key b := by
        refine String.le_antisymm ?_ ?_
        · rcases List.mem_cons.1 ((hmem b).2 List.mem_cons_self) with rfl | hb
          · exact String.le_refl _
          · exact List.rel_of_pairwise_cons hl hb
        · rcases List.mem_cons.1 ((hmem a).1 List.mem_cons_self) with rfl | ha
          · exact String.le_refl _
          · exact List.rel_of_pairwise_cons hl' ha
      have hhead := h (key a)
      rw [List.filter_cons_of_pos (by simp), List.filter_cons_of_pos (by simp [hab])] at hhead
      obtain ⟨rfl, -⟩ := List.cons.inj hhead
      have htail : ∀ k, l.filter (key · = k) = l'.filter (key · = k) := by
        intro k
        have hk := h k
        simp only [List.filter_cons] at hk
        split at hk
        · exact (List.cons.inj hk).2
        · exact hk
      refine congrArg (a :: ·) (ih hl.of_cons hl'.of_cons htail fun c => ?_)
      have hc : c ∈ l.filter (key · = key c) ↔ c ∈ l'.filter (key · = key c) := by rw [htail]
      simpa using hc

/-! ## Paths that tell files apart -/

/-- A name is a text, and no character of it is changed where it is reported. -/
def FileName.IsPlain (name : FileName) : Prop :=
  ∃ s : String, name = ofString s ∧ '/' ∉ s.toList ∧ '\\' ∉ s.toList

/-- Files by their names below a directory, each once and all in plain names. -/
structure ArePlain (files : List (List FileName × ByteArray)) : Prop where
  nodup : (files.map Prod.fst).Nodup
  ne_nil : ∀ file ∈ files, file.1 ≠ []
  plain : ∀ file ∈ files, ∀ name ∈ file.1, FileName.IsPlain name

theorem exists_map_ofString {below : List FileName} (h : ∀ name ∈ below, FileName.IsPlain name) :
    ∃ names : List String, below = names.map FileName.ofString ∧
      (∀ name ∈ names, '/' ∉ name.toList) ∧ ∀ name ∈ names, '\\' ∉ name.toList := by
  induction below with
  | nil => exact ⟨[], rfl, by simp, by simp⟩
  | cons name below ih =>
    obtain ⟨s, rfl, hslash, hbackslash⟩ := h name List.mem_cons_self
    obtain ⟨names, rfl, hslashes, hbackslashes⟩ := ih fun n hn => h n (List.mem_cons_of_mem _ hn)
    exact ⟨s :: names, rfl, List.forall_mem_cons.2 ⟨hslash, hslashes⟩,
      List.forall_mem_cons.2 ⟨hbackslash, hbackslashes⟩⟩

/-- **The path of a file with plain names tells the names.** -/
theorem eq_of_path_named_eq {below below' : List FileName} {content content' : ByteArray}
    (hne : below ≠ []) (hne' : below' ≠ []) (h : ∀ name ∈ below, FileName.IsPlain name)
    (h' : ∀ name ∈ below', FileName.IsPlain name)
    (hpath : (FoundFile.named below content).path = (FoundFile.named below' content').path) :
    below = below' := by
  obtain ⟨names, rfl, hslash, hbackslash⟩ := exists_map_ofString h
  obtain ⟨names', rfl, hslash', hbackslash'⟩ := exists_map_ofString h'
  have hjoin : Path.join names = Path.join names' := by
    rwa [FoundFile.named, FoundFile.named, FileName.join_map_ofString, FileName.join_map_ofString,
      FileName.shown_ofString, FileName.shown_ofString,
      Path.withSlashes_of_not_mem (Path.not_mem_join (by decide) hbackslash),
      Path.withSlashes_of_not_mem (Path.not_mem_join (by decide) hbackslash')] at hpath
  rw [ne_eq, List.map_eq_nil_iff] at hne hne'
  rw [Path.join_injective hne hne' hslash hslash' hjoin]

/-- **No two files with plain names have one path.** -/
theorem nodup_path_of_arePlain {files : List (List FileName × ByteArray)} (h : ArePlain files) :
    ((files.map fun file => FoundFile.named file.1 file.2).map (·.path)).Nodup := by
  rw [List.map_map]
  refine List.pairwise_map.2 ?_
  refine List.Pairwise.imp_of_mem (fun {a b} ha hb hne hpath => hne ?_)
    (List.pairwise_map.1 h.nodup)
  exact eq_of_path_named_eq (h.ne_nil a ha) (h.ne_nil b hb) (h.plain a ha) (h.plain b hb) hpath

/-! ## Two orders of delivery -/

namespace Settings

variable {s : Settings} {filter : String → Bool} {delivered delivered' : List FoundFile}

/-- What is listed of the files reported under a path, in the order of delivery. -/
def listedAs (s : Settings) (filter : String → Bool) (delivered : List FoundFile) (path : String) :
    List FoldedFile :=
  (delivered.filterMap (s.listing? filter)).filter (·.path = path)

/-- **The files under one path are listed as they are delivered.** -/
theorem filter_path_files_foldAll (s : Settings) (filter : String → Bool)
    (delivered : List FoundFile) (path : String) :
    (s.foldAll filter delivered).files.filter (·.path = path) =
      s.listedAs filter delivered path := by
  rw [files_foldAll_eq, listedAs]
  refine filter_mergeSort (fun f g h hfg hgh => ?_) (fun f g => ?_) ?_
  · simp only [decide_eq_true_eq] at hfg hgh ⊢
    exact String.le_trans hfg hgh
  · simpa using String.le_total f.path g.path
  · refine List.pairwise_of_forall_mem_list fun f hf g hg => ?_
    have hf := of_decide_eq_true (List.mem_filter.1 hf).2
    have hg := of_decide_eq_true (List.mem_filter.1 hg).2
    rw [hf, hg]
    exact decide_eq_true (String.le_refl _)

theorem files_foldAll_eq_iff :
    (s.foldAll filter delivered).files = (s.foldAll filter delivered').files ↔
      ∀ path, s.listedAs filter delivered path = s.listedAs filter delivered' path := by
  constructor
  · intro h path
    rw [← filter_path_files_foldAll, h, filter_path_files_foldAll]
  · intro h
    refine eq_of_filter_key_eq (pairwise_files_foldAll s filter delivered)
      (pairwise_files_foldAll s filter delivered') fun path => ?_
    rw [filter_path_files_foldAll, filter_path_files_foldAll, h]

theorem path_foldText (s : Settings) (path : String) (t : Text) (ext : String) :
    (foldText s path t ext).path = path := by
  simp only [foldText]
  split
  · split <;> rfl
  · rfl

theorem path_of_listing? {f : FoundFile} {r : FoldedFile} (h : s.listing? filter f = some r) :
    r.path = f.path := by
  obtain ⟨text, -, rfl⟩ := (listing?_eq_some_iff.1 h).folded
  exact path_foldText s f.path text f.extension

/-- **If the files that are listed under one path have the same folds, any order gives one list.** -/
theorem listedAs_eq_of_unique (hperm : delivered.Perm delivered')
    (h : ∀ f ∈ delivered, ∀ g ∈ delivered, f.path = g.path →
      s.listing? filter f = s.listing? filter g) (path : String) :
    s.listedAs filter delivered path = s.listedAs filter delivered' path := by
  have hsame : (s.listedAs filter delivered path).Perm (s.listedAs filter delivered' path) :=
    (hperm.filterMap _).filter _
  have hpath : ∀ r ∈ s.listedAs filter delivered path,
      ∃ f ∈ delivered, f.path = path ∧ s.listing? filter f = some r := by
    intro r hr
    obtain ⟨hr, hpath⟩ := List.mem_filter.1 hr
    obtain ⟨f, hf, hlisted⟩ := List.mem_filterMap.1 hr
    exact ⟨f, hf, by simpa [path_of_listing? hlisted] using hpath, hlisted⟩
  -- any two of them are the same, so every relation orders them
  have htrivial : ∀ l : List FoldedFile, l.Pairwise fun _ _ => True :=
    fun l => List.pairwise_of_forall fun _ _ => trivial
  refine hsame.eq_of_pairwise (fun r r' hr hr' _ _ => ?_) (htrivial _) (htrivial _)
  obtain ⟨f, hf, hfpath, hfr⟩ := hpath r hr
  obtain ⟨g, hg, hgpath, hgr⟩ := hpath r' (hsame.mem_iff.2 hr')
  exact Option.some.inj (by rw [← hfr, ← hgr, h f hf g hg (hfpath.trans hgpath.symm)])

theorem files_perm_of_perm (s : Settings) (filter : String → Bool)
    (h : delivered.Perm delivered') :
    (s.foldAll filter delivered).files.Perm (s.foldAll filter delivered').files :=
  (files_foldAll_perm s filter delivered).trans
    ((h.filterMap _).trans (files_foldAll_perm s filter delivered').symm)

theorem totals_foldAll_of_perm (s : Settings) (filter : String → Bool)
    (h : delivered.Perm delivered') :
    (s.foldAll filter delivered).filesScanned = (s.foldAll filter delivered').filesScanned ∧
      (s.foldAll filter delivered).filesActivated = (s.foldAll filter delivered').filesActivated ∧
      (s.foldAll filter delivered).regionCount = (s.foldAll filter delivered').regionCount := by
  have hfiles := files_perm_of_perm s filter h
  refine ⟨((h.filter _).filterMap _).length_eq, hfiles.length_eq, ?_⟩
  rw [regionCount_foldAll, regionCount_foldAll, (hfiles.map _).sum_eq]

theorem foldAll_eq_iff (h : delivered.Perm delivered') :
    s.foldAll filter delivered = s.foldAll filter delivered' ↔
      ∀ path, s.listedAs filter delivered path = s.listedAs filter delivered' path := by
  rw [← files_foldAll_eq_iff]
  constructor
  · exact congrArg FoldedProject.files
  · intro hfiles
    obtain ⟨hscanned, hactivated, hregions⟩ := totals_foldAll_of_perm s filter h
    rw [FoldedProject.mk.injEq]
    exact ⟨hscanned, hactivated, hregions, hfiles⟩

theorem foldAll_eq_of_nodup (h : delivered.Perm delivered')
    (hnodup : (delivered.map (·.path)).Nodup) :
    s.foldAll filter delivered = s.foldAll filter delivered' := by
  refine (foldAll_eq_iff h).2 (listedAs_eq_of_unique h fun f hf g hg hpath => ?_)
  rw [List.inj_on_of_nodup_map hnodup hf hg hpath]

/-- **Two orders of delivery give one report, but for files under one path.** The totals are the
same, and so are the members of the list and its paths, line by line. The whole reports are the same
just if under each path the listed files are delivered in the same order; so they are if no two
files have one path, as files with plain names do not: names that are texts without a backslash. -/
theorem foldAll_of_perm (s : Settings) (filter : String → Bool)
    (delivered delivered' : List FoundFile) (h : delivered.Perm delivered') :
    let folded := s.foldAll filter delivered
    let folded' := s.foldAll filter delivered'
    (folded.filesScanned = folded'.filesScanned ∧
      folded.filesActivated = folded'.filesActivated ∧
      folded.regionCount = folded'.regionCount) ∧
      (folded.files.Perm folded'.files ∧
        folded.files.map (·.path) = folded'.files.map (·.path)) ∧
      (folded = folded' ↔
        ∀ path, s.listedAs filter delivered path = s.listedAs filter delivered' path) ∧
      ((delivered.map (·.path)).Nodup → folded = folded') ∧
      ∀ files : List (List FileName × ByteArray), ArePlain files →
        delivered.Perm (files.map fun file => .named file.1 file.2) → folded = folded' := by
  intro folded folded'
  have hfiles : folded.files.Perm folded'.files := files_perm_of_perm s filter h
  refine ⟨totals_foldAll_of_perm s filter h, ⟨hfiles, ?_⟩, foldAll_eq_iff h,
    foldAll_eq_of_nodup h, fun files hplain hnamed => foldAll_eq_of_nodup h ?_⟩
  · exact (hfiles.map _).eq_of_pairwise (fun _ _ _ _ hle hge => String.le_antisymm hle hge)
      (List.pairwise_map.2 (pairwise_files_foldAll s filter delivered))
      (List.pairwise_map.2 (pairwise_files_foldAll s filter delivered'))
  · exact (hnamed.map _).nodup_iff.2 (nodup_path_of_arePlain hplain)

/-- Files with plain names, delivered forwards and backwards. -/
theorem foldAll_of_perm_of_plain :
    let files : List (List FileName × ByteArray) := [
      ([.ofString "b.js"], "function f() \x7b\na();\n    b();\nc();\n\x7d\n".toUTF8),
      ([.ofString "é.java"], "class A \x7b\x7d\n".toUTF8),
      ([.ofString "b", .ofString "b.js"], ⟨#[0xff]⟩)]
    let s : Settings := { requireActivation := false }
    let delivered : List FoundFile := files.map fun file => .named file.1 file.2
    delivered.Perm delivered.reverse ∧ ArePlain files ∧
      s.foldAll (fun _ => true) delivered = s.foldAll (fun _ => true) delivered.reverse := by
  intro files s delivered
  have hperm : delivered.Perm delivered.reverse := (List.reverse_perm _).symm
  have hplain : ArePlain files := by
    refine ⟨by decide, by decide, ?_⟩
    simp only [files, List.forall_mem_cons, List.not_mem_nil, false_implies, implies_true, and_true]
    exact ⟨⟨_, rfl, by decide, by decide⟩, ⟨_, rfl, by decide, by decide⟩,
      ⟨_, rfl, by decide, by decide⟩, ⟨_, rfl, by decide, by decide⟩⟩
  obtain ⟨-, -, -, -, hequal⟩ :=
    foldAll_of_perm s (fun _ => true) delivered delivered.reverse hperm
  exact ⟨hperm, hplain, hequal files hplain (.refl _)⟩

/-- A backslash in a name makes two files report one path, and so do bytes that are no text. Then
the file that is delivered first is listed first. -/
theorem foldAll_ne_of_path_eq :
    let s : Settings := { requireActivation := false }
    let files (names names' : List FileName) : List FoundFile :=
      [.named names "class A \x7b\x7d\n".toUTF8, .named names' "int f() \x7b\x7d\n".toUTF8]
    let slashes := files [.ofString "a\\b.java"] [.ofString "a", .ofString "b.java"]
    let others := files [0xff :: FileName.ofString ".java"] [0xfe :: FileName.ofString ".java"]
    (slashes.reverse.Perm slashes ∧
        s.foldAll (fun _ => true) slashes.reverse ≠ s.foldAll (fun _ => true) slashes) ∧
      (others.reverse.Perm others ∧
        s.foldAll (fun _ => true) others.reverse ≠ s.foldAll (fun _ => true) others) := by
  intro s files slashes others
  have hne : ∀ (delivered : List FoundFile) (path : String),
      (s.listedAs (fun _ => true) delivered.reverse path).map (·.methodCount) ≠
        (s.listedAs (fun _ => true) delivered path).map (·.methodCount) →
      s.foldAll (fun _ => true) delivered.reverse ≠ s.foldAll (fun _ => true) delivered := by
    intro delivered path hcounts hfolded
    exact hcounts (by rw [files_foldAll_eq_iff.1 (congrArg FoldedProject.files hfolded) path])
  refine ⟨⟨List.reverse_perm _, hne slashes "a/b.java" ?_⟩,
    List.reverse_perm _, hne others "\uFFFD.java" ?_⟩
  · decide +kernel
  · decide +kernel

end Settings

end CodeFolding
