import CodeFolding.Proofs.Settings.KeyDistance
import CodeFolding.Proofs.Settings.Merge
import CodeFolding.Proofs.Text.Bytes
import CodeFolding.Proofs.Toml.Keys
import Mathlib.Data.List.Induction
/-!
# Keys that are not known

A table gives a warning for each of its keys that is not known, before all other warnings. The
warning proposes a known key if one is near enough: the candidates are gone through once, and a
later one takes the place of the best so far only if it is strictly nearer. Main statements:
`suggestion?_eq_some_iff` (what is proposed), `unknownKeys_reported` (the warnings of a table).
-/
namespace CodeFolding

/-! ## The first of the nearest candidates -/

/-- **The candidate that is kept is strictly nearer than all in front of it, and none behind it is
nearer.** -/
theorem exists_foldl_nearer (best : Nat × String) (cs : List (Nat × String)) :
    ∃ before c after, best :: cs = before ++ c :: after ∧
      cs.foldl nearer (some best) = some c ∧ (∀ b ∈ before, c.1 < b.1) ∧
      ∀ b ∈ after, c.1 ≤ b.1 := by
  induction cs using List.reverseRecOn with
  | nil => exact ⟨[], best, [], rfl, rfl, by simp, by simp⟩
  | append_singleton cs d ih =>
    obtain ⟨before, c, after, hsplit, hfold, hbefore, hafter⟩ := ih
    rw [List.foldl_append, hfold, List.foldl_cons, List.foldl_nil, nearer, ← List.cons_append,
      hsplit]
    by_cases hlt : d.1 < c.1
    · refine ⟨before ++ c :: after, d, [], by simp, if_pos hlt, fun b hb => ?_, by simp⟩
      rcases List.mem_append.1 hb with hb | hb
      · exact Nat.lt_trans hlt (hbefore b hb)
      · rcases List.mem_cons.1 hb with rfl | hb
        · exact hlt
        · exact Nat.lt_of_lt_of_le hlt (hafter b hb)
    · refine ⟨before, c, after ++ [d], by simp, if_neg hlt, hbefore, fun b hb => ?_⟩
      rcases List.mem_append.1 hb with hb | hb
      · exact hafter b hb
      · obtain rfl := List.mem_singleton.1 hb
        exact Nat.le_of_not_lt hlt

theorem eq_of_first_least {α : Type} {f : α → Nat} {before after before' after' : List α}
    {a b : α} (h : before ++ a :: after = before' ++ b :: after')
    (ha : (∀ x ∈ before, f a < f x) ∧ ∀ x ∈ after, f a ≤ f x)
    (hb : (∀ x ∈ before', f b < f x) ∧ ∀ x ∈ after', f b ≤ f x) : a = b := by
  rcases List.append_eq_append_iff.1 h with ⟨between, rfl, hrest⟩ | ⟨between, rfl, hrest⟩
  · cases between with
    | nil => exact (List.cons.inj hrest).1
    | cons x between =>
      obtain ⟨rfl, rfl⟩ := List.cons.inj hrest
      have hlt : f b < f a := hb.1 a (by simp)
      have hle : f a ≤ f b := ha.2 b (by simp)
      omega
  · cases between with
    | nil => exact (List.cons.inj hrest).1.symm
    | cons x between =>
      obtain ⟨rfl, rfl⟩ := List.cons.inj hrest
      have hlt : f a < f b := ha.1 b (by simp)
      have hle : f b ≤ f a := hb.2 a (by simp)
      omega

/-! ## What is proposed for a key -/

/-- So many edits of single bytes turn one key into another. -/
def KeyEdits (n : Nat) (a b : String) : Prop := Edits n (Path.bytes a) (Path.bytes b)

theorem isLeast_keyDistance (a b : String) : IsLeast {n | KeyEdits n a b} (keyDistance a b) := by
  have hbytes : ∀ s : String, s.toUTF8.toList = Path.bytes s := by
    intro s
    rw [ByteArray.toList, toList_loop_eq]
    rfl
  rw [keyDistance, hbytes, hbytes]
  exact isLeast_editDistance (Path.bytes a) (Path.bytes b)

theorem keyDistance_le_iff {a b : String} {n : Nat} :
    keyDistance a b ≤ n ↔ ∃ m ≤ n, KeyEdits m a b :=
  ⟨fun h => ⟨keyDistance a b, h, (isLeast_keyDistance a b).1⟩,
    fun ⟨_, hle, hm⟩ => ((isLeast_keyDistance a b).2 hm).trans hle⟩

/-- A known key is the first of those that are nearest to a key. -/
structure IsFirstNearest (key name : String) (before after : List String) : Prop where
  names_eq : SettingKey.names = before ++ name :: after
  /-- Those in front of it need more edits. -/
  before_farther : ∀ other ∈ before, ∀ n, KeyEdits n key other → ∃ m < n, KeyEdits m key name
  /-- Those behind it need no fewer edits. -/
  after_no_nearer : ∀ other ∈ after, ∀ n, KeyEdits n key other → ∃ m ≤ n, KeyEdits m key name

theorem isFirstNearest_iff {key name : String} {before after : List String} :
    IsFirstNearest key name before after ↔ SettingKey.names = before ++ name :: after ∧
      (∀ other ∈ before, keyDistance key name < keyDistance key other) ∧
      ∀ other ∈ after, keyDistance key name ≤ keyDistance key other := by
  constructor
  · rintro ⟨hnames, hbefore, hafter⟩
    refine ⟨hnames, fun other hother => ?_, fun other hother => ?_⟩
    · obtain ⟨m, hlt, hm⟩ := hbefore other hother _ (isLeast_keyDistance key other).1
      exact Nat.lt_of_le_of_lt ((isLeast_keyDistance key name).2 hm) hlt
    · exact keyDistance_le_iff.2 (hafter other hother _ (isLeast_keyDistance key other).1)
  · rintro ⟨hnames, hbefore, hafter⟩
    refine ⟨hnames, fun other hother n hn => ?_, fun other hother n hn => ?_⟩
    · exact ⟨keyDistance key name, Nat.lt_of_lt_of_le (hbefore other hother)
        ((isLeast_keyDistance key other).2 hn), (isLeast_keyDistance key name).1⟩
    · exact keyDistance_le_iff.1 ((hafter other hother).trans
        ((isLeast_keyDistance key other).2 hn))

/-- The first of the nearest known keys is proposed if it is near enough, and no other. -/
theorem exists_isFirstNearest (key : String) :
    ∃ name before after, IsFirstNearest key name before after ∧
      suggestion? key = if keyDistance key name ≤ suggestionDistance then some name else none := by
  obtain ⟨before, c, after, hsplit, hfold, hbefore, hafter⟩ :=
    exists_foldl_nearer (keyDistance key SettingKey.tabSize.name, SettingKey.tabSize.name)
      ((SettingKey.names.tail).map fun k => (keyDistance key k, k))
  have hcandidates : SettingKey.names.map (fun k => (keyDistance key k, k)) =
      before ++ c :: after := hsplit
  obtain ⟨names, rest, hnames, rfl, hrest⟩ := List.map_eq_append_iff.1 hcandidates
  obtain ⟨name, names', rfl, rfl, rfl⟩ := List.map_eq_cons_iff.1 hrest
  refine ⟨name, names, names', isFirstNearest_iff.2 ⟨hnames, ?_, ?_⟩, ?_⟩
  · exact fun other hother => hbefore _ (List.mem_map_of_mem hother)
  · exact fun other hother => hafter _ (List.mem_map_of_mem hother)
  · have hbest : (SettingKey.names.map fun k => (keyDistance key k, k)).foldl nearer none =
        some (keyDistance key name, name) := hfold
    rw [suggestion?, hbest]

/-- **A known key is proposed just if three edits are enough and it is the first of the nearest.** -/
theorem suggestion?_eq_some_iff {key name : String} :
    suggestion? key = some name ↔
      (∃ n ≤ 3, KeyEdits n key name) ∧ ∃ before after, IsFirstNearest key name before after := by
  obtain ⟨best, before, after, hbest, hsuggestion⟩ := exists_isFirstNearest key
  rw [hsuggestion, ← keyDistance_le_iff]
  constructor
  · intro h
    split at h
    · next hle => exact Option.some.inj h ▸ ⟨hle, before, after, hbest⟩
    · cases h
  · rintro ⟨hle, before', after', hname⟩
    rw [isFirstNearest_iff] at hbest hname
    obtain rfl : best = name := eq_of_first_least (hbest.1.symm.trans hname.1) hbest.2 hname.2
    exact if_pos hle

/-- **Something is proposed just if three edits are enough for some known key.** -/
theorem isSome_suggestion?_iff {key : String} :
    (suggestion? key).isSome ↔ ∃ k : SettingKey, ∃ n ≤ 3, KeyEdits n key k.name := by
  obtain ⟨best, before, after, hbest, hsuggestion⟩ := exists_isFirstNearest key
  obtain ⟨hnames, hbefore, hafter⟩ := isFirstNearest_iff.1 hbest
  have hleast : ∀ k : SettingKey, keyDistance key best ≤ keyDistance key k.name := by
    intro k
    have hk : k.name ∈ before ++ best :: after := hnames ▸ List.mem_map_of_mem k.mem_all
    rcases List.mem_append.1 hk with hk | hk
    · exact Nat.le_of_lt (hbefore _ hk)
    · rcases List.mem_cons.1 hk with hk | hk
      · exact Nat.le_of_eq (by rw [hk])
      · exact hafter _ hk
  obtain ⟨k, -, hk⟩ : ∃ k ∈ SettingKey.all, k.name = best :=
    List.mem_map.1 (show best ∈ SettingKey.names by rw [hnames]; simp)
  simp only [hsuggestion, ← keyDistance_le_iff]
  by_cases hle : keyDistance key best ≤ suggestionDistance
  · rw [if_pos hle]
    exact ⟨fun _ => ⟨k, hk ▸ hle⟩, fun _ => rfl⟩
  · rw [if_neg hle]
    refine ⟨fun h => (Bool.false_ne_true h).elim, fun ⟨j, hj⟩ => ?_⟩
    exact absurd ((hleast j).trans hj) hle

/-! ## The warnings of a table -/

theorem contains_names_iff {key : String} :
    SettingKey.names.contains key = true ↔ ∃ k : SettingKey, k.name = key := by
  rw [List.contains_iff_mem, SettingKey.names, List.mem_map]
  exact ⟨fun ⟨k, _, hk⟩ => ⟨k, hk⟩, fun ⟨k, hk⟩ => ⟨k, k.mem_all, hk⟩⟩

/-- **The warnings of a table begin with one for each key that is not known,** in the order of the
bytes of the keys, and no other warning is of this kind. A warning proposes a key just if three
edits of single bytes turn the unknown key into some known one, and then the first of those that
the fewest edits are enough for. -/
theorem unknownKeys_reported (s : Settings) {t : Toml.Entries} (h : t.IsAscending) :
    ∃ (unknown : List String) (others : List Warning),
      (s.merge t).2 = unknown.map (fun key => .unknownKey key (suggestion? key)) ++ others ∧
      (unknown.Pairwise fun a b => Path.bytes a < Path.bytes b) ∧
      (∀ key, key ∈ unknown ↔ key ∈ t.keys ∧ ∀ k : SettingKey, k.name ≠ key) ∧
      (∀ key proposed, Warning.unknownKey key proposed ∉ others) ∧
      ∀ key ∈ unknown,
        ((suggestion? key).isSome ↔ ∃ k : SettingKey, ∃ n ≤ 3, KeyEdits n key k.name) ∧
        ∀ name, suggestion? key = some name ↔ (∃ n ≤ 3, KeyEdits n key name) ∧
          ∃ before after, IsFirstNearest key name before after := by
  refine ⟨t.keys.filter fun k => !SettingKey.names.contains k, _, Settings.snd_merge s t,
    ?_, ?_, ?_, fun key _ => ⟨isSome_suggestion?_iff, fun _ => suggestion?_eq_some_iff⟩⟩
  · exact (h.sublist List.filter_sublist).imp Path.bytes_lt_of_lt
  · intro key
    rw [List.mem_filter, Bool.not_eq_true', ← Bool.not_eq_true, contains_names_iff, not_exists]
  · intro key proposed hmem
    obtain ⟨k, -, hk⟩ := List.mem_filterMap.1 hmem
    exact Option.some_ne_none k (SettingKey.about?_of_warning? hk).symm

/-- One letter is missing in one key of a document, and no known key is near to another. -/
theorem unknownKeys_reported_of_typo :
    ∃ t, Toml.parse "tab_size = 0\ntab_sze = 2\nzz = 1\n".toList = some t ∧ t.IsAscending ∧
      Warning.unknownKey "tab_sze" (some "tab_size") ∈ (({} : Settings).merge t).2 ∧
      Warning.unknownKey "zz" none ∈ (({} : Settings).merge t).2 := by
  have hread : Toml.parse "tab_size = 0\ntab_sze = 2\nzz = 1\n".toList =
      some (List.mergeSort [("tab_size", .integer 0), ("tab_sze", .integer 2), ("zz", .integer 1)]
        fun a b => a.1 ≤ b.1) := rfl
  rw [List.mergeSort_of_pairwise (by decide)] at hread
  have h := Toml.isAscending_of_parse hread
  refine ⟨_, hread, h, ?_⟩
  obtain ⟨unknown, others, hmerge, -, hmem, -⟩ := unknownKeys_reported {} h
  have hreported : ∀ key ∈ ["tab_sze", "zz"],
      Warning.unknownKey key (suggestion? key) ∈ unknown.map (fun key =>
        Warning.unknownKey key (suggestion? key)) ++ others := by
    intro key hkey
    have hnew : ∀ k : SettingKey, k.name ≠ key := by
      intro k hk
      subst hk
      cases k <;> simp [SettingKey.name] at hkey
    refine List.mem_append_left _ (List.mem_map_of_mem ((hmem key).2 ⟨?_, hnew⟩))
    exact List.mem_cons_of_mem _ hkey
  have hnear : suggestion? "tab_sze" = some "tab_size" := by decide +kernel
  have hfar : suggestion? "zz" = none := by decide +kernel
  rw [hmerge, ← hnear, ← hfar]
  exact ⟨hreported _ (by simp), hreported _ (by simp)⟩

end CodeFolding
