import CodeFolding.Proofs.FoldedProject
/-!
# How many files of a project are scanned

Of the files that a walk delivers, those count as scanned that are asked for and accepted and can
be read: files that are too large or no text are left out of the count as they are of the list, and
files that are not activated are counted. Main statement: `filesScanned_exact`.
-/
namespace CodeFolding

/-- Whether a file is read: it is small enough and a text. -/
def FoundFile.isRead (f : FoundFile) : Bool :=
  f.content.size ≤ maxFileSize && (Tree.textOf? f.content).isSome

theorem FoundFile.isRead_iff {f : FoundFile} :
    f.isRead = true ↔
      f.content.size ≤ maxFileSize ∧ ∃ text, f.content = (String.ofList text).toUTF8 := by
  simp only [isRead, Bool.and_eq_true, decide_eq_true_eq, Option.isSome_iff_exists,
    Tree.textOf?_eq_some_iff]

theorem countP_and_add_countP_and_not {α : Type} (p q : α → Bool) (l : List α) :
    l.countP (fun a => p a && q a) + l.countP (fun a => p a && !q a) = l.countP p := by
  rw [← List.countP_filter, ← List.countP_filter, ← List.countP_eq_countP_filter_add]

namespace Settings

variable {s : Settings} {filter : String → Bool} {delivered : List FoundFile} {f : FoundFile}

theorem isSome_foldOne (s : Settings) (f : FoundFile) : (s.foldOne f).isSome = f.isRead := by
  rw [Bool.eq_iff_iff, FoundFile.isRead_iff, Option.isSome_iff_exists]
  constructor
  · rintro ⟨r, hr⟩
    obtain ⟨hsize, text, htext, -⟩ := foldOne_eq_some_iff.1 hr
    exact ⟨hsize, text, htext⟩
  · rintro ⟨hsize, text, htext⟩
    exact ⟨_, foldOne_eq_some_iff.2 ⟨hsize, text, htext, rfl⟩⟩

/-- **The files that are selected and read are scanned.** -/
theorem filesScanned_foldAll (s : Settings) (filter : String → Bool)
    (delivered : List FoundFile) :
    (s.foldAll filter delivered).filesScanned =
      delivered.countP fun f => s.selects filter f && f.isRead := by
  have hlength : (s.foldAll filter delivered).filesScanned =
      ((delivered.filter (s.selects filter)).filterMap s.foldOne).length := rfl
  rw [hlength, List.length_filterMap_eq_countP, List.countP_filter]
  refine List.countP_congr fun f _ => ?_
  rw [isSome_foldOne, Bool.and_comm]

def activates (s : Settings) (f : FoundFile) : Bool := (s.foldOne f).any (·.activated)

theorem filesActivated_foldAll (s : Settings) (filter : String → Bool)
    (delivered : List FoundFile) :
    (s.foldAll filter delivered).filesActivated =
      delivered.countP fun f => s.selects filter f && f.isRead && s.activates f := by
  have hlength : (s.foldAll filter delivered).filesActivated =
      (s.foldAll filter delivered).files.length := rfl
  rw [hlength, (files_foldAll_perm s filter delivered).length_eq, List.length_filterMap_eq_countP]
  refine List.countP_congr fun f _ => ?_
  rw [← isSome_foldOne s, listing?, activates]
  cases s.selects filter f <;> cases s.foldOne f <;> simp [Option.isSome_filter]

/-- **What counts as scanned.** Of the files that are asked for and accepted just those are counted
that are read, activated or not, so the count is of all of them just if every one is read. The files
that a filter accepts and those that it refuses add up to all files. -/
theorem filesScanned_exact (s : Settings) (filter : String → Bool)
    (delivered : List FoundFile) :
    let folded := s.foldAll filter delivered
    (folded.filesScanned = delivered.countP fun f => s.selects filter f && f.isRead) ∧
      (folded.filesScanned + delivered.countP (fun f => s.selects filter f && !f.isRead) =
        delivered.countP (s.selects filter)) ∧
      (folded.filesScanned = delivered.countP (s.selects filter) ↔
        ∀ f ∈ delivered, s.selects filter f = true → f.isRead = true) ∧
      (folded.filesScanned = folded.filesActivated +
        delivered.countP fun f => s.selects filter f && f.isRead && !s.activates f) ∧
      folded.filesScanned + (s.foldAll (fun path => !filter path) delivered).filesScanned =
        (s.foldAll (fun _ => true) delivered).filesScanned := by
  intro folded
  have hscanned : folded.filesScanned = _ := filesScanned_foldAll s filter delivered
  have hunread := countP_and_add_countP_and_not (s.selects filter) (·.isRead) delivered
  refine ⟨hscanned, hscanned ▸ hunread, ?_, ?_, ?_⟩
  · rw [hscanned, ← hunread, Nat.left_eq_add, List.countP_eq_zero]
    refine forall₂_congr fun f _ => ?_
    simp
  · rw [hscanned, filesActivated_foldAll]
    exact (countP_and_add_countP_and_not _ _ delivered).symm
  · rw [hscanned, filesScanned_foldAll, filesScanned_foldAll,
      ← countP_and_add_countP_and_not (fun f => s.selects (fun _ => true) f && f.isRead)
        (fun f => filter f.path) delivered]
    congr 1
    · refine List.countP_congr fun f _ => ?_
      simp [selects, and_right_comm]
    · refine List.countP_congr fun f _ => ?_
      simp [selects, and_right_comm]

/-- A file that is no text is asked for and accepted, and is not counted. -/
theorem filesScanned_of_unread :
    let s : Settings := { requireActivation := false }
    let t : Tree := { files := [
      (["a.java"], "class A \x7b\x7d\n".toUTF8), (["b.java"], ⟨#[0xff]⟩)] }
    let delivered := t.walkFrom s.skipDirs (.directory [])
    delivered.countP (s.selects fun _ => true) = 2 ∧
      (s.foldAll (fun _ => true) delivered).filesScanned = 1 := by
  decide +kernel

end Settings

end CodeFolding
