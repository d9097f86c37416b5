import CodeFolding.Proofs.Settings.Field
/-!
# Merging tables

A table is read key by key, and each key is read on its own: what becomes of a setting, and whether
a warning is given, depends on the setting and on the value of its key. So tables without a common
key may be merged in any order. Main statements: `get_merge`, `snd_merge`, `merge_per_key`.
-/
namespace CodeFolding

/-! ## One key of a table -/

namespace SettingKey

variable {k : SettingKey} {t t' : Toml.Entries} {v : Toml.Value} {old : k.Field}

/-- What a table makes of the setting of a key. -/
def merged (k : SettingKey) (t : Toml.Entries) (old : k.Field) : k.Field :=
  match t.get? k.name with
  | none => old
  | some v => (k.change v old).toOption.getD old

/-- The warning that a table gives about a key. -/
def warning? (k : SettingKey) (t : Toml.Entries) (old : k.Field) : Option Warning :=
  match t.get? k.name with
  | none => none
  | some v =>
    match k.change v old with
    | .ok _ => none
    | .error w => some w

theorem merged_of_none (h : t.get? k.name = none) : k.merged t old = old := by
  rw [merged, h]

theorem merged_of_ok {new : k.Field} (h : t.get? k.name = some v) (hv : k.change v old = .ok new) :
    k.merged t old = new := by
  rw [merged, h]
  simp only [hv, Except.toOption, Option.getD_some]

theorem merged_of_error {w : Warning} (h : t.get? k.name = some v)
    (hv : k.change v old = .error w) : k.merged t old = old := by
  rw [merged, h]
  simp only [hv, Except.toOption, Option.getD_none]

theorem change_change {new : k.Field} (h : k.change v old = .ok new) :
    k.change v new = .ok new := by
  rcases change_cases k v with ⟨u, hu, hidempotent⟩ | herror
  · obtain rfl : u old = new := Except.ok.inj ((hu old).symm.trans h)
    rw [hu, hidempotent]
  · obtain ⟨w, hw, -⟩ := herror old
    rw [h] at hw
    cases hw

theorem merged_merged : k.merged t (k.merged t old) = k.merged t old := by
  cases ht : t.get? k.name with
  | none => rw [merged_of_none ht]
  | some v =>
    cases hv : k.change v old with
    | ok new => rw [merged_of_ok ht hv, merged_of_ok ht (change_change hv)]
    | error w => rw [merged_of_error ht hv, merged_of_error ht hv]

theorem warning?_merged : k.warning? t (k.merged t old) = k.warning? t old := by
  cases ht : t.get? k.name with
  | none => rw [merged_of_none ht]
  | some v =>
    cases hv : k.change v old with
    | ok new => simp only [warning?, ht, merged_of_ok ht hv, hv, change_change hv]
    | error w => rw [merged_of_error ht hv]

end SettingKey

/-! ## All keys of a table -/

namespace Settings

variable {s : Settings} {t t' : Toml.Entries} {k : SettingKey}

theorem readKey_eq (t : Toml.Entries) (s : Settings) (warnings : List Warning) (k : SettingKey) :
    readKey t (s, warnings) k =
      (s.put k (k.merged t (s.get k)), warnings ++ (k.warning? t (s.get k)).toList) := by
  simp only [readKey, set_eq, SettingKey.merged, SettingKey.warning?]
  cases t.get? k.name with
  | none => simp
  | some v =>
    cases hv : k.change v (s.get k) with
    | ok new => simp [hv, Except.map, Except.toOption]
    | error w => simp [hv, Except.map, Except.toOption]

theorem get_foldl_readKey (keys : List SettingKey) (s : Settings) (warnings : List Warning)
    (h : keys.Nodup) (k : SettingKey) :
    (keys.foldl (readKey t) (s, warnings)).1.get k =
      if k ∈ keys then k.merged t (s.get k) else s.get k := by
  induction keys generalizing s warnings with
  | nil => rfl
  | cons j keys ih =>
    obtain ⟨hj, hkeys⟩ := List.nodup_cons.1 h
    rw [List.foldl_cons, readKey_eq, ih _ _ hkeys]
    by_cases hk : k = j
    · subst hk
      rw [if_neg hj, get_put, if_pos List.mem_cons_self]
    · simp only [get_put_of_ne _ hk, List.mem_cons, hk, false_or]

theorem snd_foldl_readKey (keys : List SettingKey) (s : Settings) (warnings : List Warning)
    (h : keys.Nodup) :
    (keys.foldl (readKey t) (s, warnings)).2 =
      warnings ++ keys.filterMap fun k => k.warning? t (s.get k) := by
  induction keys generalizing s warnings with
  | nil => simp
  | cons j keys ih =>
    obtain ⟨hj, hkeys⟩ := List.nodup_cons.1 h
    rw [List.foldl_cons, readKey_eq, ih _ _ hkeys, List.append_assoc]
    congr 1
    have hsame : ∀ k ∈ keys, k.warning? t ((s.put j (j.merged t (s.get j))).get k) =
        k.warning? t (s.get k) := by
      intro k hk
      rw [get_put_of_ne]
      rintro rfl
      exact hj hk
    rw [List.filterMap_congr hsame, List.filterMap_cons]
    cases j.warning? t (s.get j) <;> rfl

end Settings

theorem SettingKey.nodup_all : all.Nodup := by decide

theorem SettingKey.mem_all (k : SettingKey) : k ∈ all := by cases k <;> decide

namespace Settings

variable {s : Settings} {t t' : Toml.Entries} {k : SettingKey}

/-- **Every setting is made of itself and the value of its key.** -/
theorem get_merge (s : Settings) (t : Toml.Entries) (k : SettingKey) :
    (s.merge t).1.get k = k.merged t (s.get k) := by
  rw [merge, get_foldl_readKey _ _ _ SettingKey.nodup_all, if_pos k.mem_all]

/-- **The warnings are those for unknown keys and then those about the known ones.** -/
theorem snd_merge (s : Settings) (t : Toml.Entries) :
    (s.merge t).2 =
      unknownKeys t ++ SettingKey.all.filterMap fun k => k.warning? t (s.get k) := by
  rw [merge, snd_foldl_readKey _ _ _ SettingKey.nodup_all]

theorem merge_congr (h : ∀ k : SettingKey, t'.get? k.name = t.get? k.name) :
    (s.merge t').1 = (s.merge t).1 := by
  refine eq_of_get_eq fun k => ?_
  rw [get_merge, get_merge, SettingKey.merged, SettingKey.merged, h]

end Settings

/-! ## Values that are refused -/

theorem about?_of_mem_unknownKeys {t : Toml.Entries} {w : Warning} (h : w ∈ unknownKeys t) :
    w.about? = none := by
  obtain ⟨key, -, rfl⟩ := List.mem_map.1 h
  rfl

theorem SettingKey.about?_of_warning? {k : SettingKey} {t : Toml.Entries} {old : k.Field}
    {w : Warning} (h : k.warning? t old = some w) : w.about? = some k := by
  unfold warning? at h
  split at h
  · cases h
  next v _ =>
    rcases change_cases k v with ⟨u, hu, -⟩ | herror
    · rw [hu] at h
      cases h
    · obtain ⟨w', hw', habout⟩ := herror old
      rw [hw'] at h
      rwa [← Option.some.inj h]

namespace Settings

variable {s : Settings} {t t' : Toml.Entries} {k : SettingKey} {v : Toml.Value}
  {u : k.Field → k.Field}

/-- The setting of a key is changed by `u`, and no warning is about the key. -/
structure Takes (s : Settings) (found : Settings × List Warning) (k : SettingKey)
    (u : k.Field → k.Field) : Prop where
  get_eq : found.1.get k = u (s.get k)
  silent : ∀ w ∈ found.2, w.about? ≠ some k

/-- The setting of a key is left as it is, and a warning is about the key. -/
structure Refuses (s : Settings) (found : Settings × List Warning) (k : SettingKey) : Prop where
  get_eq : found.1.get k = s.get k
  reported : ∃ w ∈ found.2, w.about? = some k

theorem takes_of_warning?_eq_none (hu : k.merged t (s.get k) = u (s.get k))
    (h : k.warning? t (s.get k) = none) : s.Takes (s.merge t) k u := by
  refine ⟨(get_merge s t k).trans hu, fun w hw habout => ?_⟩
  rw [snd_merge] at hw
  rcases List.mem_append.1 hw with hw | hw
  · rw [about?_of_mem_unknownKeys hw] at habout
    cases habout
  · obtain ⟨j, -, hj⟩ := List.mem_filterMap.1 hw
    obtain rfl : j = k := Option.some.inj ((SettingKey.about?_of_warning? hj).symm.trans habout)
    rw [h] at hj
    cases hj

theorem takes_of_absent (h : t.get? k.name = none) : s.Takes (s.merge t) k id := by
  refine takes_of_warning?_eq_none (SettingKey.merged_of_none h) ?_
  rw [SettingKey.warning?, h]

theorem takes_of_change (h : t.get? k.name = some v)
    (hu : ∀ old, k.change v old = .ok (u old)) : s.Takes (s.merge t) k u := by
  refine takes_of_warning?_eq_none (SettingKey.merged_of_ok h (hu _)) ?_
  rw [SettingKey.warning?, h]
  simp only [hu]

theorem refuses_of_not_means (h : t.get? k.name = some v) (hk : k.isList = false)
    (hv : ∀ u, ¬ k.Means v u) : s.Refuses (s.merge t) k := by
  obtain ⟨w, hw, habout⟩ := SettingKey.exists_error_of_not_means hk hv (s.get k)
  refine ⟨(get_merge s t k).trans (SettingKey.merged_of_error h hw), w, ?_, habout⟩
  rw [snd_merge]
  refine List.mem_append_right _ (List.mem_filterMap.2 ⟨k, k.mem_all, ?_⟩)
  rw [SettingKey.warning?, h]
  simp only [hw]

theorem Takes.not_refuses {found : Settings × List Warning} (h : s.Takes found k u) :
    ¬ s.Refuses found k := by
  rintro ⟨-, w, hw, habout⟩
  exact h.silent w hw habout

/-- Where lists are asked for no value is refused. -/
theorem takes_of_isList (h : t.get? k.name = some v) (hk : k.isList = true) :
    (v.items? = none → s.Takes (s.merge t) k id) ∧
      ∀ items, v.items? = some items →
        ∃ u, k.Means (.array (items.filter (·.isString))) u ∧ s.Takes (s.merge t) k u := by
  refine ⟨fun hitems => takes_of_change h (SettingKey.change_of_not_list hk hitems), ?_⟩
  intro items hitems
  obtain ⟨u, hu, hchange⟩ := SettingKey.exists_means_of_list hk hitems
  exact ⟨u, hu, takes_of_change h hchange⟩

theorem refuses_iff (h : t.get? k.name = some v) (hv : ∀ u, ¬ k.Means v u) :
    s.Refuses (s.merge t) k ↔ k.isList = false := by
  refine ⟨fun hrefuses => ?_, fun hk => refuses_of_not_means h hk hv⟩
  by_contra hk
  obtain ⟨hnone, hsome⟩ := takes_of_isList (s := s) h (Bool.eq_true_of_not_eq_false hk)
  cases hitems : v.items? with
  | none => exact (hnone hitems).not_refuses hrefuses
  | some items =>
    obtain ⟨u, -, htakes⟩ := hsome items hitems
    exact htakes.not_refuses hrefuses

/-- **What a table does to each setting.** A key that the table does not have is left alone. A value
that suits its key is taken for what it means, without a warning. Any other value is refused with a
warning just if its key is not one of lists; under these it passes without a warning and counts for
the strings in it. Keys that are not known change nothing. -/
theorem merge_reports (s : Settings) (t : Toml.Entries) :
    let found := s.merge t
    (∀ k : SettingKey, t.get? k.name = none → s.Takes found k id) ∧
      (∀ (k : SettingKey) (v : Toml.Value) (u : k.Field → k.Field),
        t.get? k.name = some v → k.Means v u → s.Takes found k u) ∧
      (∀ (k : SettingKey) (v : Toml.Value), t.get? k.name = some v → (∀ u, ¬ k.Means v u) →
        (s.Refuses found k ↔ k.isList = false)) ∧
      (∀ (k : SettingKey) (v : Toml.Value), t.get? k.name = some v → k.isList = true →
        (v.items? = none → s.Takes found k id) ∧
          ∀ items, v.items? = some items →
            ∃ u, k.Means (.array (items.filter (·.isString))) u ∧ s.Takes found k u) ∧
      ∀ t' : Toml.Entries, (∀ k : SettingKey, t'.get? k.name = t.get? k.name) →
        (s.merge t').1 = found.1 :=
  ⟨fun _ => takes_of_absent, fun _ _ _ h hu => takes_of_change h (SettingKey.change_of_means hu),
    fun _ _ => refuses_iff, fun _ _ => takes_of_isList, fun _ => merge_congr⟩

/-- A number in a list of names does not suit the key, and no text suits a key of lists. -/
theorem not_means_of_mixed :
    (∀ u, ¬ SettingKey.extensions.Means (.array [.string "java", .integer 1]) u) ∧
      ∀ u, ¬ SettingKey.skipDirs.Means (.string "generated") u := by
  constructor
  · intro u h
    cases h with
    | extensions _ names items =>
      have hall : ∀ v ∈ [Toml.Value.string "java", .integer 1], v.isString = true := by
        rw [Option.some.inj items]
        simp [Toml.Value.isString, Toml.Value.string?]
      simp [Toml.Value.isString, Toml.Value.string?] at hall
  · intro u h
    cases h with
    | skipDirs _ names items => cases items

/-- A tab size of zero is refused and a start is taken, as is the string in a list with a number. -/
theorem merge_reports_of_mixed :
    let t : Toml.Entries := [("extensions", .array [.string ".java", .integer 1]),
      ("start_offset", .string "skip-indent"), ("tab_size", .integer 0)]
    let found := ({} : Settings).merge t
    ({} : Settings).Refuses found .tabSize ∧
      ({} : Settings).Takes found .startOffset (fun _ => RegionStart.skipIndent) ∧
      ({} : Settings).Takes found .skipDirs id ∧
      ∃ u, SettingKey.extensions.Means (.array [.string ".java"]) u ∧
        ({} : Settings).Takes found .extensions u := by
  intro t found
  obtain ⟨habsent, hmeans, hrefused, hlist, -⟩ := merge_reports {} t
  have hzero : ∀ u, ¬ SettingKey.tabSize.Means (.integer 0) u := by
    intro u h
    cases h with
    | tabSize _ positive => exact absurd positive (by decide)
  refine ⟨(hrefused .tabSize _ rfl hzero).2 rfl,
    hmeans .startOffset _ _ rfl (.startOffset .skipIndent), habsent .skipDirs rfl, ?_⟩
  exact (hlist .extensions _ rfl rfl).2 _ rfl

/-- Values that do not suit the keys of lists give no warning, and one of them sets its key. -/
theorem merge_silent_of_mixed :
    let t : Toml.Entries := [("extensions", .array [.string "java", .integer 1]),
      ("skip_dirs", .string "generated")]
    (∀ u, ¬ SettingKey.extensions.Means (.array [.string "java", .integer 1]) u) ∧
      (∀ u, ¬ SettingKey.skipDirs.Means (.string "generated") u) ∧
      (({} : Settings).merge t).2 = [] ∧
      (({} : Settings).merge t).1.extensions ≠ ({} : Settings).extensions := by
  obtain ⟨hextensions, hskipDirs⟩ := not_means_of_mixed
  refine ⟨hextensions, hskipDirs, by decide +kernel, by decide +kernel⟩

end Settings

/-! ## Tables without a common key -/

namespace Toml.Entries

/-- The tables have no key in common. -/
def IsApart (t₁ t₂ : Entries) : Prop := ∀ key, t₁.get? key = none ∨ t₂.get? key = none

/-- A table has the values of two others. -/
def IsUnion (t t₁ t₂ : Entries) : Prop := ∀ key, t.get? key = (t₁.get? key).or (t₂.get? key)

theorem isUnion_append (t₁ t₂ : Entries) : IsUnion (t₁ ++ t₂) t₁ t₂ :=
  fun _ => List.lookup_append

end Toml.Entries

namespace SettingKey

variable {k : SettingKey} {t t₁ t₂ : Toml.Entries} {old : k.Field}

theorem merged_comm (h : t₁.IsApart t₂) :
    k.merged t₂ (k.merged t₁ old) = k.merged t₁ (k.merged t₂ old) := by
  rcases h k.name with hnone | hnone
  · rw [merged_of_none hnone, merged_of_none hnone]
  · rw [merged_of_none hnone, merged_of_none hnone]

theorem merged_of_isUnion (h : t₁.IsApart t₂) (hunion : t.IsUnion t₁ t₂) :
    k.merged t old = k.merged t₂ (k.merged t₁ old) := by
  have hvalue := hunion k.name
  rcases h k.name with hnone | hnone
  · rw [merged_of_none (t := t₁) hnone, merged, merged, hvalue, hnone, Option.none_or]
  · rw [merged_of_none (t := t₂) hnone, merged, merged, hvalue, hnone, Option.or_none]

end SettingKey

namespace Settings

/-- **Tables are merged key by key.** Two tables without a common key give the same settings in
either order, and so does one table that has the values of both. A table that is merged again
changes no setting and gives the same warnings. -/
theorem merge_per_key (s : Settings) :
    (∀ t₁ t₂ : Toml.Entries, t₁.IsApart t₂ →
      ((s.merge t₁).1.merge t₂).1 = ((s.merge t₂).1.merge t₁).1 ∧
        ∀ t : Toml.Entries, t.IsUnion t₁ t₂ → (s.merge t).1 = ((s.merge t₁).1.merge t₂).1) ∧
      ∀ t : Toml.Entries, (s.merge t).1.merge t = s.merge t := by
  refine ⟨fun t₁ t₂ hapart => ⟨eq_of_get_eq fun k => ?_, fun t hunion => eq_of_get_eq fun k => ?_⟩,
    fun t => Prod.ext (eq_of_get_eq fun k => ?_) ?_⟩
  · simp only [get_merge, SettingKey.merged_comm hapart]
  · simp only [get_merge, SettingKey.merged_of_isUnion hapart hunion]
  · simp only [get_merge, SettingKey.merged_merged]
  · simp only [snd_merge, get_merge, SettingKey.warning?_merged]

/-- A table with a tab size and one with directories and a key that is not known. -/
theorem merge_per_key_of_pair :
    let t₁ : Toml.Entries := [("tab_size", .integer 2)]
    let t₂ : Toml.Entries := [("skip_dirs", .array [.string "generated"]), ("tab_sise", .integer 3)]
    let s : Settings := {}
    t₁.IsApart t₂ ∧ (t₁ ++ t₂).IsUnion t₁ t₂ ∧
      ((s.merge t₁).1.merge t₂).1 = ((s.merge t₂).1.merge t₁).1 ∧
      (s.merge (t₁ ++ t₂)).1 = ((s.merge t₁).1.merge t₂).1 ∧
      (s.merge t₂).1.merge t₂ = s.merge t₂ := by
  intro t₁ t₂ s
  have hapart : t₁.IsApart t₂ := by
    intro key
    by_cases hkey : key = "tab_size"
    · subst hkey
      exact .inr (by decide +kernel)
    · refine .inl (List.lookup_eq_none_iff.2 fun entry hentry => ?_)
      rw [List.mem_singleton.1 hentry]
      exact bne_iff_ne.2 hkey
  obtain ⟨hpair, htwice⟩ := merge_per_key s
  obtain ⟨hcomm, hunion⟩ := hpair t₁ t₂ hapart
  have happend := Toml.Entries.isUnion_append t₁ t₂
  exact ⟨hapart, happend, hcomm, hunion _ happend, htwice t₂⟩

end Settings

end CodeFolding
