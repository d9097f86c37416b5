import CodeFolding.FoldedProject
import CodeFolding.Proofs.Tree.FileName
import Mathlib.Algebra.BigOperators.Group.List.Basic
import Mathlib.Algebra.Ring.Nat
import Mathlib.Data.List.Forall2
import Mathlib.Data.List.Perm.Basic
/-!
# What a folded project lists

A walk delivers the files of a project in any order. Of these a file is listed if its extension is
asked for, the filter accepts its path, it is small enough and a text, and it is activated. Main
statement: the list holds the folds of just these files, each once, in the order of their paths
(`foldAll_exact`).
-/
namespace CodeFolding

/-! ## What a walk delivers -/

/-- The file `f` stands at the steps `below` a place. A place that is a file stands at itself. -/
def FoundFile.StandsBelow (f : FoundFile) (t : Tree) : Place → List String → Prop
  | .directory root, below =>
    ∃ content, (root ++ below, content) ∈ t.files ∧ f = Tree.found below content
  | .file steps content, below => below = [] ∧ f = ⟨"", Path.extensionOf (steps.getLastD ""), content⟩

namespace Tree

variable {t : Tree} {passedOver : List String → Bool → Bool} {skip : NameSet} {place : Place}
  {root below : List String} {f : FoundFile}

/-- A walk that gets to a file enters no directory on the way whose name is to be skipped. -/
theorem not_mem_skip_of_reaches (h : reaches passedOver skip root below = true) :
    ∀ d ∈ below.dropLast, d ∉ skip := by
  intro d hd
  obtain ⟨i, hi, rfl⟩ := List.mem_iff_getElem.1 hd
  rw [List.length_dropLast] at hi
  rw [reaches, List.all_eq_true] at h
  have hstep := h i (by simp; omega)
  have hlast : (root ++ below.take (i + 1)).getLastD "" = below.dropLast[i] := by
    rw [List.getElem_dropLast, List.take_add_one, List.getElem?_eq_getElem (by omega),
      Option.toList_some, ← List.append_assoc, List.getLastD_concat]
  have hdirectory : i + 1 < below.length := by omega
  rw [admits, hlast] at hstep
  simpa [hdirectory] using (Bool.and_eq_true_iff.1 hstep).2

/-- A file of the tree, if a walk from `root` finds it. -/
def foundBelow? (passedOver : List String → Bool → Bool) (skip : NameSet) (root : List String)
    (file : List String × ByteArray) : Option FoundFile :=
  let below := file.1.drop root.length
  if root.isPrefixOf file.1 && !below.isEmpty && reaches passedOver skip root below then
    some (found below file.2)
  else none

theorem walkPast_directory (t : Tree) (passedOver : List String → Bool → Bool) (skip : NameSet)
    (root : List String) :
    t.walkPast passedOver skip (.directory root) =
      t.files.filterMap (foundBelow? passedOver skip root) := rfl

theorem foundBelow?_eq_some_iff {file : List String × ByteArray} :
    foundBelow? passedOver skip root file = some f ↔
      ∃ below, file.1 = root ++ below ∧ below ≠ [] ∧
        reaches passedOver skip root below = true ∧ f = found below file.2 := by
  unfold foundBelow?
  simp only [Option.ite_none_right_eq_some, Bool.and_eq_true, Bool.not_eq_true',
    List.isEmpty_eq_false_iff, List.isPrefixOf_iff_prefix, Option.some.injEq]
  constructor
  · rintro ⟨⟨⟨⟨below, hsteps⟩, hne⟩, hreaches⟩, rfl⟩
    rw [← hsteps, List.drop_left] at hne hreaches ⊢
    exact ⟨below, rfl, hne, hreaches, rfl⟩
  · rintro ⟨below, hsteps, hne, hreaches, rfl⟩
    rw [hsteps, List.drop_left]
    exact ⟨⟨⟨List.prefix_append root below, hne⟩, hreaches⟩, rfl⟩

/-- A walk from a directory delivers the files below it that it gets to. -/
theorem mem_walkPast_directory_iff :
    f ∈ t.walkPast passedOver skip (.directory root) ↔
      ∃ below content, (root ++ below, content) ∈ t.files ∧ below ≠ [] ∧
        reaches passedOver skip root below = true ∧ f = found below content := by
  rw [walkPast_directory, List.mem_filterMap]
  constructor
  · rintro ⟨⟨steps, content⟩, hmem, hfound⟩
    obtain ⟨below, rfl, hne, hreaches, rfl⟩ := foundBelow?_eq_some_iff.1 hfound
    exact ⟨below, content, hmem, hne, hreaches, rfl⟩
  · rintro ⟨below, content, hmem, hne, hreaches, rfl⟩
    exact ⟨(root ++ below, content), hmem,
      foundBelow?_eq_some_iff.2 ⟨below, rfl, hne, hreaches, rfl⟩⟩

/-- **Every file that a walk delivers stands below its place, behind no directory to be skipped.** -/
theorem exists_below_of_mem_walkPast (h : f ∈ t.walkPast passedOver skip place) :
    ∃ below, f.StandsBelow t place below ∧ ∀ d ∈ below.dropLast, d ∉ skip := by
  cases place with
  | directory root =>
    obtain ⟨below, content, hmem, -, hreaches, hfound⟩ := mem_walkPast_directory_iff.1 h
    exact ⟨below, ⟨content, hmem, hfound⟩, not_mem_skip_of_reaches hreaches⟩
  | file steps content =>
    rw [walkPast, FileName.extension_ofString, List.mem_singleton] at h
    exact ⟨[], ⟨rfl, h⟩, by simp⟩

theorem textOf?_eq_some_iff {content : ByteArray} {text : Text} :
    textOf? content = some text ↔ content = (String.ofList text).toUTF8 := by
  rw [textOf?, Option.map_eq_some_iff]
  constructor
  · rintro ⟨s, hs, rfl⟩
    obtain ⟨hvalid, hs⟩ := Option.dite_none_right_eq_some.1 hs
    rw [String.ofList_toList, ← Option.some.inj hs]
    rfl
  · rintro rfl
    refine ⟨String.ofList text, ?_, String.toList_ofList⟩
    exact dif_pos (String.ofList text).isValidUTF8

end Tree

/-! ## What is listed -/

namespace Settings

variable {s : Settings} {filter : String → Bool} {f : FoundFile} {r : FoldedFile}

/-- The file `f` is listed, with the folds `r`. -/
structure Lists (s : Settings) (filter : String → Bool) (f : FoundFile) (r : FoldedFile) :
    Prop where
  eligible : foldsExtension s.extensions f.extension = true
  accepted : filter f.path = true
  size_le : f.content.size ≤ maxFileSize
  /-- Its bytes are a text in UTF-8, and `r` is what folding the text gives. -/
  folded : ∃ text, f.content = (String.ofList text).toUTF8 ∧
    r = foldText s f.path text f.extension
  activated : r.activated = true

theorem foldOne_eq_some_iff :
    s.foldOne f = some r ↔ f.content.size ≤ maxFileSize ∧
      ∃ text, f.content = (String.ofList text).toUTF8 ∧ r = foldText s f.path text f.extension := by
  unfold foldOne
  by_cases hsize : maxFileSize < f.content.size
  · simp [hsize, Nat.not_le.2 hsize]
  · simp only [hsize, if_false, Option.map_eq_some_iff, Tree.textOf?_eq_some_iff, Nat.not_lt.1 hsize,
      true_and, @eq_comm _ r]

/-- The folds of a file that is listed. -/
def listing? (s : Settings) (filter : String → Bool) (f : FoundFile) : Option FoldedFile :=
  if s.selects filter f then (s.foldOne f).filter (·.activated) else none

theorem listing?_eq_some_iff : s.listing? filter f = some r ↔ s.Lists filter f r := by
  rw [listing?, Option.ite_none_right_eq_some, Option.filter_eq_some_iff, foldOne_eq_some_iff,
    selects, Bool.and_eq_true]
  constructor
  · rintro ⟨⟨heligible, haccepted⟩, ⟨hsize, hfolded⟩, hactivated⟩
    exact ⟨heligible, haccepted, hsize, hfolded, hactivated⟩
  · rintro ⟨heligible, haccepted, hsize, hfolded, hactivated⟩
    exact ⟨⟨heligible, haccepted⟩, ⟨hsize, hfolded⟩, hactivated⟩

instance (s : Settings) (filter : String → Bool) (f : FoundFile) :
    Decidable (∃ r, s.Lists filter f r) :=
  decidable_of_iff ((s.listing? filter f).isSome = true) (by
    rw [Option.isSome_iff_exists]
    exact exists_congr fun r => listing?_eq_some_iff)

theorem files_foldAll_eq (s : Settings) (filter : String → Bool) (delivered : List FoundFile) :
    (s.foldAll filter delivered).files =
      (delivered.filterMap (s.listing? filter)).mergeSort fun f g => f.path ≤ g.path := by
  have hlisted : ((delivered.filter (s.selects filter)).filterMap s.foldOne).filter (·.activated) =
      delivered.filterMap (s.listing? filter) := by
    rw [List.filterMap_filter, List.filter_filterMap]
    refine List.filterMap_congr fun f _ => ?_
    rw [listing?]
    split <;> rfl
  rw [← hlisted]
  rfl

theorem files_foldAll_perm (s : Settings) (filter : String → Bool) (delivered : List FoundFile) :
    (s.foldAll filter delivered).files.Perm (delivered.filterMap (s.listing? filter)) := by
  rw [files_foldAll_eq]
  exact List.mergeSort_perm _ _

theorem pairwise_files_foldAll (s : Settings) (filter : String → Bool)
    (delivered : List FoundFile) :
    (s.foldAll filter delivered).files.Pairwise fun f g => f.path ≤ g.path := by
  refine (List.pairwise_mergeSort (fun f g h hfg hgh => ?_) (fun f g => ?_) _).imp fun h => ?_
  · simp only [decide_eq_true_eq] at hfg hgh ⊢
    exact String.le_trans hfg hgh
  · simpa using String.le_total f.path g.path
  · simpa using h

theorem regionCount_foldAll (s : Settings) (filter : String → Bool) (delivered : List FoundFile) :
    (s.foldAll filter delivered).regionCount =
      ((s.foldAll filter delivered).files.map (·.regions.length)).sum := by
  rw [List.sum_eq_foldl, List.foldl_map]
  rfl

/-- **The listed files are the folds of those delivered files that are listed, one for one.** -/
theorem exists_sources (s : Settings) (filter : String → Bool) (delivered : List FoundFile) :
    ∃ sources : List FoundFile,
      sources.Perm (delivered.filter fun f => ∃ r, s.Lists filter f r) ∧
        List.Forall₂ (s.Lists filter) sources (s.foldAll filter delivered).files := by
  have hunsorted : List.Forall₂ (fun r f => s.Lists filter f r)
      (delivered.filterMap (s.listing? filter))
      (delivered.filter fun f => ∃ r, s.Lists filter f r) := by
    induction delivered with
    | nil => exact .nil
    | cons f delivered ih =>
      cases hf : s.listing? filter f with
      | none =>
        have hnone : ¬ ∃ r, s.Lists filter f r := by
          rintro ⟨r, hr⟩
          rw [listing?_eq_some_iff.2 hr] at hf
          cases hf
        rw [List.filterMap_cons_none hf, List.filter_cons_of_neg (by simpa using hnone)]
        exact ih
      | some r =>
        have hr := listing?_eq_some_iff.1 hf
        have hsome : ∃ r, s.Lists filter f r := ⟨r, hr⟩
        rw [List.filterMap_cons_some hf, List.filter_cons_of_pos (by simpa using hsome)]
        exact .cons hr ih
  obtain ⟨sources, hfiles, hperm⟩ :=
    List.perm_comp_forall₂ (files_foldAll_perm s filter delivered) hunsorted
  exact ⟨sources, hperm, hfiles.flip⟩

/-- **What a folded project lists.** A walk has delivered the files below a place, in some order.
Then the list is in the order of the bytes of the paths; its members are the folds of just those
delivered files that are listed, each once; none of these stands behind a directory whose name is
to be skipped; and the totals count the list. -/
theorem foldAll_exact (t : Tree) (place : Place) (passedOver : List String → Bool → Bool)
    (s : Settings) (filter : String → Bool) (delivered : List FoundFile)
    (hwalk : delivered.Perm (t.walkPast passedOver s.skipDirs place)) :
    let folded := s.foldAll filter delivered
    (folded.files.Pairwise fun f g => Path.bytes f.path ≤ Path.bytes g.path) ∧
      (∃ sources : List FoundFile,
        sources.Perm (delivered.filter fun f => ∃ r, s.Lists filter f r) ∧
          List.Forall₂ (s.Lists filter) sources folded.files) ∧
      (∀ r ∈ folded.files, ∃ f below, s.Lists filter f r ∧ f.StandsBelow t place below ∧
        ∀ d ∈ below.dropLast, d ∉ s.skipDirs) ∧
      folded.filesActivated = folded.files.length ∧
      folded.regionCount = (folded.files.map (·.regions.length)).sum := by
  intro folded
  have hsources := exists_sources s filter delivered
  refine ⟨(pairwise_files_foldAll s filter delivered).imp Path.bytes_le_iff.2, hsources, ?_, rfl,
    regionCount_foldAll s filter delivered⟩
  intro r hr
  have hmem := (files_foldAll_perm s filter delivered).subset hr
  obtain ⟨f, hf, hlisted⟩ := List.mem_filterMap.1 hmem
  obtain ⟨below, hbelow, hskip⟩ := Tree.exists_below_of_mem_walkPast (hwalk.subset hf)
  exact ⟨f, below, listing?_eq_some_iff.1 hlisted, hbelow, hskip⟩

/-- A tree in which one file is listed with a fold and one without, and others are skipped,
filtered out, in no language or no text. -/
theorem foldAll_exact_of_reversed :
    let t : Tree := { files := [
      (["p", "b.js"], "function f() \x7b\na();\n    b();\nc();\n\x7d\n".toUTF8),
      (["p", "a.java"], "class A \x7b\x7d\n".toUTF8),
      (["p", "c.java"], "class C \x7b\x7d\n".toUTF8),
      (["p", "target", "d.java"], "class D \x7b\x7d\n".toUTF8),
      (["p", "e.txt"], "".toUTF8),
      (["p", "f.java"], ⟨#[0xff]⟩)] }
    let s : Settings := { requireActivation := false }
    let filter := fun p => p != "c.java"
    let delivered := (t.walkPast t.isIgnored s.skipDirs (.directory ["p"])).reverse
    delivered.Perm (t.walkPast t.isIgnored s.skipDirs (.directory ["p"])) ∧
      (s.foldAll filter delivered).files.map (·.path) = ["a.java", "b.js"] ∧
      (s.foldAll filter delivered).filesActivated = 2 ∧
      (s.foldAll filter delivered).regionCount = 1 := by
  intro t s filter delivered
  have hwalk : delivered.Perm (t.walkPast t.isIgnored s.skipDirs (.directory ["p"])) :=
    List.reverse_perm _
  obtain ⟨hsorted, -, -, hactivated, hregions⟩ :=
    foldAll_exact t (.directory ["p"]) t.isIgnored s filter delivered hwalk
  have hperm := files_foldAll_perm s filter delivered
  have hpaths : (s.foldAll filter delivered).files.map (·.path) = ["a.java", "b.js"] := by
    have hlisted : (delivered.filterMap (s.listing? filter)).map (·.path) = ["a.java", "b.js"] := by
      decide +kernel
    have hascending : ((s.foldAll filter delivered).files.map (·.path)).Pairwise (· ≤ ·) :=
      List.pairwise_map.2 (hsorted.imp Path.bytes_le_iff.1)
    refine List.Perm.eq_of_pairwise (fun p q _ _ hpq hqp => String.le_antisymm hpq hqp) hascending
      (by decide +kernel) ?_
    rw [← hlisted]
    exact hperm.map _
  refine ⟨hwalk, hpaths, ?_, ?_⟩
  · rw [hactivated, ← List.length_map (·.path), hpaths]
    rfl
  · rw [hregions, (hperm.map _).sum_eq]
    decide +kernel

end Settings

end CodeFolding
