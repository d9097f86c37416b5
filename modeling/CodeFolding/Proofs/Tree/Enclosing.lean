import CodeFolding.Proofs.Tree.Project
/-!
# Settings around a file

The settings of a file are looked for in the directories that the text of its path puts it in. If
the path goes up nowhere, these are the directories around the file, up to the one that the path
starts from, and the nearest settings count. A step up makes them others: `sub/../a` leads to `a`,
and its text puts that file in `sub`. Main statement: `enclosing_settings_used`.
-/
namespace CodeFolding.Tree

variable {t : Tree} {place target : Place} {root front back below directory : List String}
  {p : String} {content : ByteArray}

/-! ## Which settings are around a file -/

/-- A directory, given by the names that lead to it from the working directory, holds settings. -/
def HoldsSettings (t : Tree) (directory : List String) : Prop :=
  (t.at? (t.working ++ (directory ++ [settingsFile]))).isSome = true

/-- Of the directories around a file that hold settings, the nearest one. -/
structure IsNearest (t : Tree) (below directory : List String) : Prop where
  encloses : directory <+: below ∧ directory ≠ below
  holds : t.HoldsSettings directory
  longest : ∀ other, other <+: below → other ≠ below → t.HoldsSettings other →
    other.length ≤ directory.length

/-- The settings that count for a file which stands `below` the working directory: those of the
nearest directory around it that holds any, up to the working directory, or those by default. -/
inductive EnclosingSettings (t : Tree) (below : List String) : Settings → Prop where
  | nearest (directory : List String) (isNearest : t.IsNearest below directory) :
    EnclosingSettings t below (t.loadSettings (settingsIn directory)).1
  | missing (none_holds : ∀ other, other <+: below → other ≠ below → ¬ t.HoldsSettings other) :
    EnclosingSettings t below {}

/-! ## Where a path leads -/

theorem foldlM_follow_filter {parts : List String}
    (h : parts.foldlM t.follow place = .ok target) :
    (parts.filter fun s => s != "" && s != ".").foldlM t.follow place = .ok target := by
  induction parts generalizing place with
  | nil => exact h
  | cons part parts ih =>
    rw [List.foldlM_cons] at h
    cases hnext : t.follow place part with
    | error e => rw [hnext] at h; cases h
    | ok next =>
      rw [hnext] at h
      by_cases hstays : part = "" ∨ part = "."
      · obtain rfl : place = next := by
          cases place with
          | file => cases hnext
          | directory steps => simpa [follow, hstays] using hnext
        rw [List.filter_cons_of_neg (by rcases hstays with rfl | rfl <;> decide)]
        exact ih h
      · have hleads : (part != "" && part != ".") = true := by simpa using hstays
        rw [List.filter_cons_of_pos (p := fun s => s != "" && s != ".") hleads, List.foldlM_cons,
          hnext]
        exact ih h

/-- A relative path is followed part by part from the working directory. -/
theorem resolve_relative (hnul : p.toList.contains '\x00' = false) (hne : p.isEmpty = false)
    (hrelative : Path.isAbsolute p = false) :
    t.resolve p = (Path.parts p).foldlM t.follow (.directory t.working) := by
  unfold resolve
  rw [hnul, hne, hrelative]
  rfl

/-- A relative path that leads to a file and goes up nowhere is followed by its steps, which are
the names that lead to the file. -/
theorem follow_of_resolve (h : t.resolve p = .ok (.file (t.working ++ below) content))
    (hrelative : Path.isAbsolute p = false) (hup : ".." ∉ Path.parts p) :
    Path.steps p = below ∧ (∀ name ∈ below, Path.IsName name) ∧
      below.foldlM t.follow (.directory t.working) =
        .ok (.file (t.working ++ below) content) := by
  unfold resolve at h
  rw [hrelative] at h
  split at h
  · cases h
  next hnul =>
  split at h
  · cases h
  have hnames : ∀ name ∈ Path.steps p, Path.IsName name :=
    Path.isName_of_mem_steps hup (by simpa using hnul)
  have hfollow : (Path.steps p).foldlM t.follow (.directory t.working) =
      .ok (.file (t.working ++ below) content) := foldlM_follow_filter h
  have hne : Path.steps p ≠ [] := by
    intro hnil
    rw [hnil] at hfollow
    cases hfollow
  have hsteps := steps_of_at? (at?_of_follow hne hnames hfollow)
  obtain rfl : below = Path.steps p := List.append_cancel_left hsteps
  exact ⟨rfl, hnames, hfollow⟩

/-- **On the way to what names lead to, there are directories.** -/
theorem follow_front (hnames : ∀ name ∈ front, Path.IsName name) (hback : back ≠ [])
    (h : (front ++ back).foldlM t.follow (.directory root) = .ok target) :
    front.foldlM t.follow (.directory root) = .ok (.directory (root ++ front)) := by
  rw [List.foldlM_append] at h
  cases hfront : front.foldlM t.follow (.directory root) with
  | error e => rw [hfront] at h; cases h
  | ok place =>
    rw [hfront] at h
    obtain ⟨name, back, rfl⟩ := List.exists_cons_of_ne_nil hback
    cases place with
    -- no name is followed from a file
    | file => cases h
    | directory steps =>
      rcases List.eq_nil_or_concat front with rfl | ⟨_, _, hconcat⟩
      · rw [List.append_nil]
        exact hfront.symm
      · have hsteps := steps_of_at? (at?_of_follow (by simp [hconcat]) hnames hfront)
        rw [← hsteps]
        rfl

/-- The path of the settings in a directory leads to something just if the directory holds them. -/
theorem exists?_settingsIn_iff (hnames : ∀ name ∈ directory, Path.IsName name)
    (h : directory.foldlM t.follow (.directory t.working) =
      .ok (.directory (t.working ++ directory))) :
    t.exists? (settingsIn directory) = true ↔ t.HoldsSettings directory := by
  have hall : ∀ name ∈ directory ++ [settingsFile], Path.IsName name := by
    intro name hname
    rcases List.mem_append.1 hname with hname | hname
    · exact hnames name hname
    · rw [List.mem_singleton.1 hname]
      exact isName_settingsFile
  have hresolve : t.resolve (settingsIn directory) =
      t.follow (.directory (t.working ++ directory)) settingsFile := by
    rw [settingsIn, resolve_join (by simp) hall, List.foldlM_append, h]
    simp [bind, Except.bind, pure, Except.pure]
    cases t.follow (.directory (t.working ++ directory)) settingsFile <;> rfl
  have hname := isName_settingsFile
  unfold exists? HoldsSettings
  rw [hresolve, follow, if_neg (by simp [hname.ne_empty, hname.ne_here]), if_neg hname.ne_above,
    List.append_assoc]
  cases t.at? (t.working ++ (directory ++ [settingsFile])) <;> simp [Except.isOk, Except.toBool]

/-! ## The settings that are found -/

/-- **The settings of a file are those of the nearest directory around it.** -/
theorem settingsFor_enclosing (h : t.resolve p = .ok (.file (t.working ++ below) content))
    (hrelative : Path.isAbsolute p = false) (hup : ".." ∉ Path.parts p) :
    t.EnclosingSettings below (t.settingsFor p) := by
  obtain ⟨hsteps, hnames, hfollow⟩ := follow_of_resolve h hrelative hup
  have hcandidates : Path.settingsCandidates p = (Path.enclosing below).map settingsIn := by
    unfold Path.settingsCandidates
    rw [hsteps, hrelative]
    exact List.map_congr_left fun directory _ => String.empty_append
  have hholds : ∀ directory ∈ Path.enclosing below,
      t.exists? (settingsIn directory) = true ↔ t.HoldsSettings directory := by
    intro directory hdirectory
    obtain ⟨⟨back, rfl⟩, hne⟩ := Path.mem_enclosing_iff.1 hdirectory
    have hfront : ∀ name ∈ directory, Path.IsName name := fun name hname =>
      hnames name (List.mem_append_left back hname)
    exact exists?_settingsIn_iff hfront
      (follow_front hfront (by simpa using hne) hfollow)
  unfold settingsFor
  rw [hcandidates, List.find?_map]
  cases hfind : (Path.enclosing below).find? (t.exists? ∘ settingsIn) with
  | none =>
    refine .missing fun other hbegins hne hother => ?_
    have hmem := Path.mem_enclosing_iff.2 ⟨hbegins, hne⟩
    exact List.find?_eq_none.1 hfind other hmem ((hholds other hmem).2 hother)
  | some directory =>
    obtain ⟨hexists, longer, shorter, hsplit, hlonger⟩ := List.find?_eq_some_iff_append.1 hfind
    have hmem : directory ∈ Path.enclosing below := by rw [hsplit]; simp
    refine .nearest directory ⟨Path.mem_enclosing_iff.1 hmem, (hholds directory hmem).1 hexists, ?_⟩
    intro other hbegins hne hother
    have hothermem := Path.mem_enclosing_iff.2 ⟨hbegins, hne⟩
    have hexists' := (hholds other hothermem).2 hother
    -- those in front of the directory that is found hold no settings, those behind it are shorter
    have hsorted := Path.pairwise_enclosing below
    rw [hsplit] at hothermem hsorted
    rcases List.mem_append.1 hothermem with hin | hin
    · have hnot := hlonger other hin
      rw [Function.comp_apply, hexists'] at hnot
      cases hnot
    · rcases List.mem_cons.1 hin with rfl | hin
      · exact Nat.le_refl _
      · exact Nat.le_of_lt ((List.pairwise_cons.1 (List.pairwise_append.1 hsorted).2.1).1 other hin)

/-- **Commands on a file use the settings of the nearest directory around it.** A relative path
leads to a file below the working directory and goes up nowhere. Then there are settings which the
nearest directory around the file holds, up to the working directory, or which are those by default
if none of these directories holds any, and with these settings the file is folded, its blocks are
found and its methods are shown. This is said of trees without links: there is one way to each file,
so the directories on a way that never goes up are those that hold the file. -/
theorem enclosing_settings_used (h : t.resolve p = .ok (.file (t.working ++ below) content))
    (hrelative : Path.isAbsolute p = false) (hup : ".." ∉ Path.parts p) :
    ∃ s, t.EnclosingSettings below s ∧ t.settingsFor p = s ∧
      ∀ text, textOf? content = some text →
        let ext := Path.extension p
        let survey := Survey.ofText (Language.ofExtension ext) text
        (∀ o, Command.runFold t true p o =
          .document (foldText (s.override o) p text ext).toJson) ∧
        (∀ r o, Command.runLines t true p r o =
          .document (.array (((s.override o).layout.regions (.ofText text) r survey.isComment).map
            Region.toJson))) ∧
        Command.runOutline t true p = .document (survey.toJson s p) := by
  refine ⟨t.settingsFor p, settingsFor_enclosing h hrelative hup, rfl, fun text htext => ?_⟩
  have hsource : t.source p = .ok (text, Path.extension p) := by
    unfold source readText
    rw [h]
    simp [bind, Except.bind, htext]
  refine ⟨fun o => ?_, fun r o => ?_, ?_⟩
  · simp only [Command.runFold, withSource, hsource, if_true]
  · simp only [Command.runLines, withSource, hsource, if_true]
  · simp only [Command.runOutline, withSource, hsource, if_true]

/-- Settings stand around a file, further up and beside it, and its path is written with steps that
lead nowhere. -/
theorem enclosing_settings_used_of_nested :
    let source := "a\n   b\nc\n".toUTF8
    let t : Tree := {
      files := [
        (["root", settingsFile], "tab_size = 1\n".toUTF8),
        (["root", "src", settingsFile], "tab_size = 3\n".toUTF8),
        (["root", "src", "main", "a.java"], source),
        (["root", "lib", settingsFile], "tab_size = 2\n".toUTF8)]
      working := ["root"] }
    let p := "./src/./main//a.java"
    t.resolve p = .ok (.file (t.working ++ ["src", "main", "a.java"]) source) ∧
      Path.isAbsolute p = false ∧ ".." ∉ Path.parts p ∧
      ∃ s, t.EnclosingSettings ["src", "main", "a.java"] s ∧ s.layout.tabSize = 3 := by
  intro source t p
  have hparts : Path.parts p = [".", "src", ".", "main", "", "a.java"] := by decide +kernel
  have hrelative : Path.isAbsolute p = false := by decide +kernel
  have hresolve : t.resolve p = .ok (.file (t.working ++ ["src", "main", "a.java"]) source) := by
    rw [resolve_relative (by decide +kernel) (by decide +kernel) hrelative, hparts]
    simp [follow, at?, file?, isDirectory, settingsFile, bind, Except.bind, pure, Except.pure,
      List.lookup_cons, t]
  have hup : ".." ∉ Path.parts p := by decide +kernel
  have htab : (t.settingsFor p).layout.tabSize = 3 := by decide +kernel
  obtain ⟨s, henclosing, hs, -⟩ := enclosing_settings_used hresolve hrelative hup
  exact ⟨hresolve, hrelative, hup, s, henclosing, hs ▸ htab⟩

/-- The path goes through a directory and up again, and the settings there count for a file that
they are not around. -/
theorem settings_beside_used :
    let source := "a\n  b\nc\n".toUTF8
    let t : Tree := {
      files := [(["a.java"], source), (["sub", settingsFile], "tab_size = 2\n".toUTF8)] }
    let p := "sub/../a.java"
    t.resolve p = .ok (.file (t.working ++ ["a.java"]) source) ∧ Path.isAbsolute p = false ∧
      ¬ t.EnclosingSettings ["a.java"] (t.settingsFor p) := by
  intro source t p
  have hparts : Path.parts p = ["sub", "..", "a.java"] := by decide +kernel
  have hrelative : Path.isAbsolute p = false := by decide +kernel
  have hresolve : t.resolve p = .ok (.file (t.working ++ ["a.java"]) source) := by
    rw [resolve_relative (by decide +kernel) (by decide +kernel) hrelative, hparts]
    simp [follow, at?, file?, isDirectory, settingsFile, bind, Except.bind, pure, Except.pure,
      List.lookup_cons, t]
  refine ⟨hresolve, hrelative, ?_⟩
  have htab : (t.settingsFor p).layout.tabSize = 2 := by decide +kernel
  generalize t.settingsFor p = s at htab
  intro henclosing
  cases henclosing with
  | nearest directory isNearest =>
    obtain ⟨hbegins, hne⟩ := isNearest.encloses
    rcases List.prefix_cons_iff.1 hbegins with rfl | ⟨behind, rfl, hbehind⟩
    · exact absurd isNearest.holds (by unfold HoldsSettings; decide +kernel)
    · exact hne (by rw [List.prefix_nil.1 hbehind])
  | missing => exact absurd htab (by decide)

end CodeFolding.Tree
