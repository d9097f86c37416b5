import CodeFolding.Proofs.Command.Arguments
import CodeFolding.Proofs.FoldedProject.Order
import CodeFolding.Proofs.Tree.Project
/-!
# Folding a file and folding its project

A file of a project can be folded by itself, by its path. Then its settings are looked for along the
path and its text is read under the path, while a scan takes the settings of the directory that it
walks and reads what the walk delivers. Main statement: with the same overrides both give the same
folds for every file that the scan lists (`fold_agrees_with_scan`).
-/
namespace CodeFolding.Command

variable {t : Tree} {o : Overrides} {s : Settings} {filter : String → Bool}
  {delivered : List FoundFile} {passedOver : List String → Bool → Bool} {f : FoldedFile}

/-- **A scan folds what it finds below the working directory, with the settings at the root.** -/
theorem run_scan (t : Tree) (milliseconds : Nat) (ho : ∀ n ∈ o.tabSize, n < UInt64.size)
    (hs : s = (t.loadSettings settingsFile).1.override o) :
    run t milliseconds ("scan" :: "--json" :: o.arguments) =
      .document ((s.foldAll (fun _ => true) (t.walkFrom s.skipDirs (.directory t.working))).toJson
        (t.fullPath t.working) milliseconds) := by
  have hhere : t.resolve "." = .ok (.directory t.working) := by
    simp [Tree.resolve, Path.parts, Path.addToSteps, Path.isAbsolute, Tree.follow]
  have hroot : t.loadSettings ("." ++ "/" ++ settingsFile) = t.loadSettings settingsFile :=
    Tree.loadSettings_congr (Tree.resolve_here (by decide) (by decide +kernel))
  subst hs
  unfold run
  rw [parse_scan ho]
  change runScan t milliseconds true none none defaultLimit o = _
  unfold runScan
  dsimp only [Option.getD_none]
  rw [hhere]
  dsimp only [Place.steps, filter?]
  rw [if_pos rfl, Tree.settings_loadProject, Tree.root_loadProject, hroot]

/-- **A file that a scan of the project lists has the same folds by itself.** -/
theorem run_fold (h : t.IsProject) (milliseconds : Nat) (ho : ∀ n ∈ o.tabSize, n < UInt64.size)
    (hs : s = (t.loadSettings settingsFile).1.override o)
    (hwalk : delivered.Perm (t.walkPast passedOver s.skipDirs (.directory t.working)))
    (hf : f ∈ (s.foldAll filter delivered).files) (hplain : formOf f.path = .plain) :
    run t milliseconds ("fold" :: "--json" :: f.path :: o.arguments) = .document f.toJson := by
  obtain ⟨found, hfound, hlisted⟩ :=
    List.mem_filterMap.1 ((Settings.files_foldAll_perm s filter delivered).subset hf)
  obtain ⟨below, content, hmem, hne, -, rfl⟩ :=
    Tree.mem_walkPast_directory_iff.1 (hwalk.subset hfound)
  obtain ⟨text, hcontent, rfl⟩ := (Settings.listing?_eq_some_iff.1 hlisted).folded
  have hnames := h.names below content hmem
  have hpath : (Tree.found below content).path = Path.join below := by
    rw [Tree.found_eq]
    exact Path.withSlashes_of_not_mem
      (Path.not_mem_join (by decide) (h.backslash below content hmem))
  rw [Settings.path_foldText, hpath] at hplain
  have hsource : t.source (Path.join below) =
      .ok (text, (Tree.found below content).extension) := by
    unfold Tree.source
    rw [Tree.found_eq] at hcontent ⊢
    rw [h.readText_of_mem hne hmem (Tree.textOf?_eq_some_iff.2 hcontent),
      Path.extension_join hne hnames]
  subst hs
  rw [Settings.path_foldText, hpath]
  unfold run
  rw [parse_fold ho hplain (Path.join_ne_empty hne hnames)]
  simp only [runFold, Tree.withSource, hsource, h.settingsFor_join hne hmem, if_true]

end CodeFolding.Command
