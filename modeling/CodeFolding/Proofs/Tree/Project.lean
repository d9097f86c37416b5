import CodeFolding.Command.Run
import CodeFolding.Proofs.Tree.Path
/-!
# Files of a project

A path that is put together from the names of a file's steps leads to the file: each name is
followed from the directory that the names in front of it lead to. If a project keeps settings at
its root and nowhere else, these are the settings of all its files. Main statements:
`IsProject.resolve_of_mem` and `IsProject.settingsFor_join`.
-/
namespace CodeFolding.Tree

variable {t : Tree} {place : Place} {root below directory steps : List String} {name p : String}
  {content : ByteArray}

/-! ## Following names -/

theorem steps_of_at? (h : t.at? steps = some place) : place.steps = steps := by
  unfold at? at h
  split at h
  · rw [← Option.some.inj h]
    rfl
  · obtain ⟨-, hplace⟩ := Option.ite_none_right_eq_some.1 h
    rw [← Option.some.inj hplace]
    rfl

/-- A name is followed to what stands under it. -/
theorem bind_follow_eq_ok_iff (hname : Path.IsName name) {k : Place → Except ReadError Place} :
    (t.follow (.directory root) name >>= k) = .ok place ↔
      ∃ next, t.at? (root ++ [name]) = some next ∧ k next = .ok place := by
  unfold follow
  simp only [hname.ne_empty, hname.ne_here, hname.ne_above, if_false]
  cases t.at? (root ++ [name]) with
  | none => simp [bind, Except.bind]
  | some next => simp [bind, Except.bind]

theorem at?_of_follow (hne : below ≠ []) (hnames : ∀ name ∈ below, Path.IsName name)
    (h : below.foldlM t.follow (.directory root) = .ok place) :
    t.at? (root ++ below) = some place := by
  induction below generalizing root with
  | nil => exact absurd rfl hne
  | cons name below ih =>
    obtain ⟨hname, hbelow⟩ := List.forall_mem_cons.1 hnames
    rw [List.foldlM_cons] at h
    obtain ⟨next, hnext, hrest⟩ := (bind_follow_eq_ok_iff hname).1 h
    cases below with
    | nil =>
      rw [hnext]
      exact congrArg some (Except.ok.inj hrest)
    | cons second below =>
      cases next with
      -- no name is followed from a file
      | file => cases hrest
      | directory steps =>
        obtain rfl : steps = root ++ [name] := steps_of_at? hnext
        have hat := ih (by simp) hbelow hrest
        rwa [List.append_assoc] at hat

/-- Names are followed to what stands there, if directories stand on the way. -/
theorem follow_of_directories (hne : below ≠ []) (hnames : ∀ name ∈ below, Path.IsName name)
    (hway : ∀ front back, below = front ++ back → front ≠ [] → back ≠ [] →
      t.at? (root ++ front) = some (.directory (root ++ front)))
    (hat : t.at? (root ++ below) = some place) :
    below.foldlM t.follow (.directory root) = .ok place := by
  induction below generalizing root with
  | nil => exact absurd rfl hne
  | cons name below ih =>
    obtain ⟨hname, hbelow⟩ := List.forall_mem_cons.1 hnames
    rw [List.foldlM_cons]
    apply (bind_follow_eq_ok_iff hname).2
    cases below with
    | nil => exact ⟨place, hat, rfl⟩
    | cons second below =>
      refine ⟨.directory (root ++ [name]), hway [name] (second :: below) rfl (by simp) (by simp), ?_⟩
      -- the directories on the way from there are those on the way from the root, but for the first
      apply ih (by simp) hbelow
      · intro front back hsplit hfront hback
        have hdirectory := hway (name :: front) back (by rw [hsplit]; rfl) (by simp) hback
        rwa [List.append_cons] at hdirectory
      · rwa [List.append_cons] at hat

/-- A path from names is followed from the working directory. -/
theorem resolve_join (hne : below ≠ []) (hnames : ∀ name ∈ below, Path.IsName name) :
    t.resolve (Path.join below) = below.foldlM t.follow (.directory t.working) := by
  have hnul : '\x00' ∉ (Path.join below).toList :=
    Path.not_mem_join (by decide) fun name hname => (hnames name hname).nul
  have hempty : (Path.join below).isEmpty = false := by
    simpa using Path.join_ne_empty hne hnames
  unfold resolve
  rw [Path.parts_join hne fun name hname => (hnames name hname).slash,
    Path.isAbsolute_join hne hnames, hempty]
  simp [hnul]

theorem resolve_here (hne : p ≠ "") (hrelative : Path.isAbsolute p = false) :
    t.resolve ("." ++ "/" ++ p) = t.resolve p := by
  have hparts : Path.parts ("." ++ "/" ++ p) = "." :: Path.parts p :=
    Path.parts_append_slash (by decide) p
  have habsolute : Path.isAbsolute ("." ++ "/" ++ p) = false := by
    simp [Path.isAbsolute]
  unfold resolve
  rw [hparts, habsolute, hrelative, List.foldlM_cons]
  simp [follow, hne, bind, Except.bind]

theorem exists?_join (hne : below ≠ []) (hnames : ∀ name ∈ below, Path.IsName name)
    (h : t.exists? (Path.join below) = true) : (t.at? (t.working ++ below)).isSome = true := by
  unfold exists? at h
  rw [resolve_join hne hnames] at h
  cases hfollow : below.foldlM t.follow (.directory t.working) with
  | error => rw [hfollow] at h; cases h
  | ok place => rw [at?_of_follow hne hnames hfollow]; rfl

/-! ## Files of settings -/

theorem isName_settingsFile : Path.IsName settingsFile := by decide +kernel

theorem settingsIn_nil : settingsIn [] = settingsFile := by simp [settingsIn, Path.join]

theorem loadSettings_of_not_exists (h : t.exists? p = false) : (t.loadSettings p).1 = {} := by
  unfold loadSettings settingsTable
  rw [h]
  rfl

/-- Settings are read from where a path leads, however it is written. -/
theorem loadSettings_congr {q : String} (h : t.resolve p = t.resolve q) :
    t.loadSettings p = t.loadSettings q := by
  have hexists : t.exists? p = t.exists? q := by
    unfold exists?
    rw [h]
  have hread : t.readText p = t.readText q := by
    unfold readText
    rw [h]
  unfold loadSettings settingsTable
  rw [hexists, hread]

theorem settings_loadProject (t : Tree) (root path : String) :
    (t.loadProject root path).1.settings = (t.loadSettings path).1 := by
  unfold loadProject loadSettings
  split
  · rfl
  · rfl

theorem root_loadProject (t : Tree) (root path : String) :
    (t.loadProject root path).1.root = root := by
  unfold loadProject
  split
  · rfl
  · rfl

/-! ## What a project is -/

/-- The tree lists a file or a directory. -/
def Has (t : Tree) (steps : List String) : Prop :=
  steps ∈ t.directories ∨ ∃ content, (steps, content) ∈ t.files

/-- What stands in a tree is on the way to something that is listed. -/
theorem exists_has_of_at? (hne : steps ≠ []) (h : (t.at? steps).isSome = true) :
    ∃ listed, t.Has listed ∧ steps <+: listed := by
  unfold at? at h
  split at h
  case h_1 content hfile =>
    obtain ⟨before, after, hfiles, -⟩ := List.lookup_eq_some_iff.1 hfile
    refine ⟨steps, Or.inr ⟨content, ?_⟩, List.prefix_rfl⟩
    rw [hfiles]
    simp
  case h_2 =>
    have hdirectory : t.isDirectory steps = true := by
      by_contra hno
      simp [hno] at h
    simp only [isDirectory, Bool.or_eq_true, List.isEmpty_iff, hne, false_or, List.any_eq_true,
      Bool.and_eq_true, List.isPrefixOf_iff_prefix] at hdirectory
    rcases hdirectory with ⟨listed, hmem, hfront⟩ | ⟨⟨listed, content⟩, hmem, hfront, -⟩
    · exact ⟨listed, Or.inl hmem, hfront⟩
    · exact ⟨listed, Or.inr ⟨content, hmem⟩, hfront⟩

/-- The tree below the working directory is a project: its files are as a disk keeps them, no name
holds a backslash, and settings stand at the root if anywhere. -/
structure IsProject (t : Tree) : Prop where
  /-- Every file stands once. -/
  nodup : (t.files.map Prod.fst).Nodup
  /-- Nothing stands below a file. -/
  leaf : ∀ file ∈ t.files, ∀ file' ∈ t.files, file.1 <+: file'.1 → file.1 = file'.1
  names : ∀ below content, (t.working ++ below, content) ∈ t.files →
    ∀ name ∈ below, Path.IsName name
  backslash : ∀ below content, (t.working ++ below, content) ∈ t.files →
    ∀ name ∈ below, '\\' ∉ name.toList
  /-- No file or directory in a directory of the project has the name of settings. -/
  settings : ∀ below, t.Has (t.working ++ below) → settingsFile ∉ below.tail

namespace IsProject

variable (h : t.IsProject)
include h

theorem file?_of_mem (hmem : (steps, content) ∈ t.files) : t.file? steps = some content := by
  obtain ⟨before, after, hfiles⟩ := List.append_of_mem hmem
  refine List.lookup_eq_some_iff.2 ⟨before, after, hfiles, ?_⟩
  intro file hfile
  have hnodup := h.nodup
  rw [hfiles, List.map_append, List.map_cons] at hnodup
  have hnot := (List.nodup_append.1 hnodup).2.2 file.1 (List.mem_map_of_mem hfile) steps
    List.mem_cons_self
  simpa using hnot.symm

/-- Directories stand on the way to a file. -/
theorem at?_of_mem_of_split {front back : List String}
    (hmem : (front ++ back, content) ∈ t.files) (hback : back ≠ []) :
    t.at? front = some (.directory front) := by
  have hne : front ≠ front ++ back := by simpa using hback.symm
  have hnone : t.file? front = none := by
    cases hfile : t.file? front with
    | none => rfl
    | some other =>
      obtain ⟨before, after, hfiles, -⟩ := List.lookup_eq_some_iff.1 hfile
      have hfront : (front, other) ∈ t.files := by rw [hfiles]; simp
      exact absurd (h.leaf _ hfront _ hmem (List.prefix_append _ _)) hne
  have hdirectory : t.isDirectory front = true := by
    have hany : t.files.any (fun f => front.isPrefixOf f.1 && front != f.1) = true := by
      rw [List.any_eq_true]
      exact ⟨_, hmem, by simpa using hback⟩
    simp [isDirectory, hany]
  unfold at?
  rw [hnone, hdirectory]
  rfl

/-- **The path of a file of the project leads to it.** -/
theorem resolve_of_mem (hne : below ≠ []) (hmem : (t.working ++ below, content) ∈ t.files) :
    t.resolve (Path.join below) = .ok (.file (t.working ++ below) content) := by
  have hnames := h.names below content hmem
  rw [resolve_join hne hnames]
  apply follow_of_directories hne hnames
  · intro front back hsplit _ hback
    rw [hsplit, ← List.append_assoc] at hmem
    exact h.at?_of_mem_of_split hmem hback
  · unfold at?
    rw [h.file?_of_mem hmem]

theorem readText_of_mem {text : Text} (hne : below ≠ [])
    (hmem : (t.working ++ below, content) ∈ t.files) (htext : textOf? content = some text) :
    t.readText (Path.join below) = .ok text := by
  unfold readText
  rw [h.resolve_of_mem hne hmem]
  simp [bind, Except.bind, htext]

/-! ## Settings -/

/-- Settings stand in no directory but the root. -/
theorem eq_root_of_at? (hat : (t.at? (t.working ++ (directory ++ [settingsFile]))).isSome = true) :
    directory = [] := by
  obtain ⟨listed, hlisted, rest, rfl⟩ := exists_has_of_at? (by simp) hat
  rw [List.append_assoc] at hlisted
  have hnot := h.settings _ hlisted
  cases directory with
  | nil => rfl
  | cons first directory => simp at hnot

/-- **The settings of a file of the project are those at the root,** or those by default if there
are none. -/
theorem settingsFor_join (hne : below ≠ []) (hmem : (t.working ++ below, content) ∈ t.files) :
    t.settingsFor (Path.join below) = (t.loadSettings settingsFile).1 := by
  have hnames := h.names below content hmem
  have hcandidates : Path.settingsCandidates (Path.join below) =
      (Path.enclosing below).map settingsIn := by
    unfold Path.settingsCandidates
    rw [Path.steps_join hne hnames, Path.isAbsolute_join hne hnames]
    exact List.map_congr_left fun directory _ => String.empty_append
  unfold settingsFor
  rw [hcandidates]
  cases hfind : ((Path.enclosing below).map settingsIn).find? t.exists? with
  | some path =>
    -- only the last candidate can be there
    obtain ⟨directory, hdirectory, rfl⟩ := List.mem_map.1 (List.mem_of_find?_eq_some hfind)
    have hexists := List.find?_some hfind
    have hfront : directory <+: below := by
      obtain ⟨i, -, rfl⟩ := List.mem_map.1 hdirectory
      exact List.take_prefix i below
    have hat := exists?_join (by simp) (fun name hname => ?_) hexists
    · obtain rfl := h.eq_root_of_at? hat
      rw [settingsIn_nil]
    · rcases List.mem_append.1 hname with hname | hname
      · exact hnames name (hfront.subset hname)
      · rw [List.mem_singleton.1 hname]
        exact isName_settingsFile
  | none =>
    have hroot : settingsFile ∈ (Path.enclosing below).map settingsIn := by
      rw [← settingsIn_nil]
      apply List.mem_map_of_mem
      refine List.mem_map.2 ⟨0, ?_, List.take_zero⟩
      simpa using List.length_pos_iff.2 hne
    have hnone : t.exists? settingsFile = false := by
      simpa using List.find?_eq_none.1 hfind settingsFile hroot
    rw [loadSettings_of_not_exists hnone]

end IsProject

end CodeFolding.Tree
