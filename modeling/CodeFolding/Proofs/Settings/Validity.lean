import CodeFolding.Settings.Load
import CodeFolding.Proofs.Settings.Merge
/-!
# Settings that tables lead to

A table leaves a setting as it is or changes it to what a suitable value means, so what suitable
values have in common holds of the settings of a project after any tables. Main statements: what a
table can do to a setting (`merged_cases`), what one table keeps (`IsValid.merge`), and what holds
of a project after any number of tables (`mergeAll_valid`).
-/
namespace CodeFolding

/-! ## Names in arrays -/

namespace Toml.Entries

/-- The text is one of the strings in the array that a table has under a key. -/
def Lists (t : Entries) (key name : String) : Prop :=
  ∃ v items, t.get? key = some v ∧ v.items? = some items ∧ .string name ∈ items

def listed (t : Entries) (key : String) : List String := ((t.get? key).bind namesOf).getD []

theorem mem_listed_iff {t : Entries} {key name : String} :
    name ∈ t.listed key ↔ t.Lists key name := by
  have hstring : ∀ v : Value, v.string? = some name ↔ v = .string name := by
    intro v
    cases v <;> simp [Value.string?]
  cases ht : t.get? key with
  | none => simp [listed, Lists, ht]
  | some v =>
    cases hv : v.items? with
    | none => simp [listed, Lists, ht, namesOf, hv]
    | some items => simp [listed, Lists, ht, namesOf, hv, hstring]

end Toml.Entries

theorem head?_bareExtension_ne (ext : String) : (bareExtension ext).toList.head? ≠ some '.' := by
  have hstop := List.head?_dropWhile_not (p := (· == '.')) ext.toList
  intro hdot
  rw [bareExtension, String.toList_ofList] at hdot
  rw [hdot] at hstop
  simp at hstop

/-! ## One key of a table -/

namespace SettingKey

variable {k : SettingKey} {t : Toml.Entries} {v : Toml.Value} {u : k.Field → k.Field}
  {old : k.Field}

/-- What the settings of a key have in common. -/
def Allows : (k : SettingKey) → k.Field → Prop
  | .tabSize, (n : Nat) => 1 ≤ n
  | .activationMarker, (m : Text) | .startMarker, (m : Text) | .endMarker, (m : Text) => m ≠ []
  | .extensions, (names : NameSet) => ∀ ext ∈ names, ext.toList.head? ≠ some '.'
  | .startOffset, _ | .requireActivation, _ | .skipDirs, _ => True

theorem toList_ne_nil {m : String} (h : m ≠ "") : m.toList ≠ [] :=
  fun hnil => h (String.toList_eq_nil_iff.1 hnil)

theorem Means.allows (h : k.Means v u) (old : k.Field) : k.Allows (u old) := by
  cases h with
  | tabSize n positive => exact positive
  | startOffset p => trivial
  | activationMarker m nonempty => exact toList_ne_nil nonempty
  | startMarker m nonempty => exact toList_ne_nil nonempty
  | endMarker m nonempty => exact toList_ne_nil nonempty
  | requireActivation b => trivial
  | extensions _ names _ =>
    intro ext hext
    rcases NameSet.mem_insertAll.1 hext with hext | hext
    · obtain ⟨name, -, rfl⟩ := List.mem_map.1 hext
      exact head?_bareExtension_ne name
    · cases hext
  | skipDirs _ names _ => trivial

/-- **What a table can do to a setting:** nothing, or what a suitable value means. -/
theorem merged_cases (k : SettingKey) (t : Toml.Entries) (old : k.Field) :
    k.merged t old = old ∨ ∃ v u, k.Means v u ∧ k.merged t old = u old := by
  cases ht : t.get? k.name with
  | none => exact .inl (merged_of_none ht)
  | some v =>
    by_cases hm : ∃ u, k.Means v u
    · obtain ⟨u, hu⟩ := hm
      exact .inr ⟨v, u, hu, merged_of_ok ht (change_of_means hu old)⟩
    cases hk : k.isList with
    | false =>
      obtain ⟨w, hw, -⟩ := exists_error_of_not_means hk (not_exists.1 hm) old
      exact .inl (merged_of_error ht hw)
    | true =>
      cases hv : v.items? with
      | none => exact .inl (merged_of_ok ht (change_of_not_list hk hv old))
      | some items =>
        obtain ⟨u, hu, hchange⟩ := exists_means_of_list hk hv
        exact .inr ⟨_, u, hu, merged_of_ok ht (hchange old)⟩

theorem allows_merged (h : k.Allows old) : k.Allows (k.merged t old) := by
  rcases merged_cases k t old with heq | ⟨v, u, hu, heq⟩
  · rwa [heq]
  · rw [heq]
    exact hu.allows old

theorem change_skipDirs (v : Toml.Value) (old : NameSet) :
    skipDirs.change v old = .ok (old.insertAll ((namesOf v).getD [])) := by
  simp only [change, Settings.set]
  cases namesOf v <;> rfl

/-- **The directories that a table lists are added to those before.** -/
theorem merged_skipDirs (t : Toml.Entries) (old : NameSet) :
    skipDirs.merged t old = old.insertAll (t.listed skipDirs.name) := by
  cases ht : t.get? skipDirs.name with
  | none =>
    rw [Toml.Entries.listed, ht]
    exact merged_of_none ht
  | some v =>
    rw [Toml.Entries.listed, ht, Option.bind_some]
    exact merged_of_ok ht (change_skipDirs v old)

end SettingKey

/-! ## One table -/

/-- What holds of the settings of a project whatever tables are merged into them. -/
structure Settings.IsValid (s : Settings) : Prop where
  tabSize_pos : 1 ≤ s.layout.tabSize
  activation_ne : s.activation ≠ []
  opening_ne : s.markers.opening ≠ []
  closing_ne : s.markers.closing ≠ []
  /-- Extensions are written without their dots. -/
  extensions_bare : ∀ ext ∈ s.extensions, ext.toList.head? ≠ some '.'

namespace Settings

variable {s : Settings}

theorem isValid_iff : s.IsValid ↔ ∀ k : SettingKey, k.Allows (s.get k) := by
  constructor
  · rintro ⟨htab, hactivation, hopening, hclosing, hbare⟩ k
    cases k with
    | tabSize => exact htab
    | startOffset => trivial
    | activationMarker => exact hactivation
    | startMarker => exact hopening
    | endMarker => exact hclosing
    | requireActivation => trivial
    | extensions => exact hbare
    | skipDirs => trivial
  · intro h
    exact ⟨h .tabSize, h .activationMarker, h .startMarker, h .endMarker, h .extensions⟩

theorem isValid_default : ({} : Settings).IsValid where
  tabSize_pos := by decide
  activation_ne := by decide
  opening_ne := by decide
  closing_ne := by decide
  extensions_bare := fun _ hext => by cases hext

/-- **One more table keeps settings valid.** -/
theorem IsValid.merge (h : s.IsValid) (t : Toml.Entries) : (s.merge t).1.IsValid := by
  rw [isValid_iff] at h ⊢
  intro k
  rw [get_merge]
  exact SettingKey.allows_merged (h k)

theorem mem_skipDirs_merge {t : Toml.Entries} {d : String} :
    d ∈ (s.merge t).1.skipDirs ↔ d ∈ s.skipDirs ∨ t.Lists SettingKey.skipDirs.name d := by
  have hskip : (s.merge t).1.skipDirs = s.skipDirs.insertAll (t.listed SettingKey.skipDirs.name) :=
    (get_merge s t .skipDirs).trans (SettingKey.merged_skipDirs t s.skipDirs)
  rw [hskip, NameSet.mem_insertAll, or_comm, Toml.Entries.mem_listed_iff]

end Settings

/-! ## Any tables -/

namespace Project

/-- The project with any tables merged in, one after the other. -/
def mergeAll (p : Project) (ts : List Toml.Entries) : Project :=
  ts.foldl (fun p t => (p.merge t).1) p

/-- What holds of a project after some tables, if it began with the settings `s`. -/
structure HasMerged (p : Project) (root : String) (s : Settings) (ts : List Toml.Entries) :
    Prop where
  root_eq : p.root = root
  valid : p.settings.IsValid
  mem_skipDirs_iff : ∀ d, d ∈ p.settings.skipDirs ↔
    d ∈ s.skipDirs ∨ ∃ t ∈ ts, t.Lists SettingKey.skipDirs.name d

theorem hasMerged_mergeAll {p : Project} (h : p.settings.IsValid) (ts : List Toml.Entries) :
    (p.mergeAll ts).HasMerged p.root p.settings ts := by
  induction ts generalizing p with
  | nil => exact ⟨rfl, h, by simp [mergeAll]⟩
  | cons t ts ih =>
    obtain ⟨hroot, hvalid, hskip⟩ := ih (p := (p.merge t).1) (h.merge t)
    refine ⟨hroot, hvalid, fun d => ?_⟩
    rw [mergeAll, List.foldl_cons, ← mergeAll, hskip]
    simp only [merge, Settings.mem_skipDirs_merge, or_assoc, List.mem_cons, exists_eq_or_imp]

/-- **After any tables the settings of a project are valid,** its root is the one it began with, and
the directories to skip are the default ones and all strings that the tables list as such; so no
table that is merged later takes one of them away. -/
theorem mergeAll_valid (root : String) (ts : List Toml.Entries) :
    let p := ({ root } : Project).mergeAll ts
    p.root = root ∧ p.settings.IsValid ∧
      (∀ d, d ∈ p.settings.skipDirs ↔ d ∈ defaultSkipDirs ∨ ∃ t ∈ ts, t.Lists "skip_dirs" d) ∧
      ∀ (more : List Toml.Entries) (d : String), d ∈ p.settings.skipDirs →
        d ∈ (p.mergeAll more).settings.skipDirs := by
  intro p
  have h : p.HasMerged root {} ts := hasMerged_mergeAll Settings.isValid_default ts
  refine ⟨h.root_eq, h.valid, h.mem_skipDirs_iff, fun more d hd => ?_⟩
  exact ((hasMerged_mergeAll h.valid more).mem_skipDirs_iff d).2 (.inl hd)

end Project

end CodeFolding
