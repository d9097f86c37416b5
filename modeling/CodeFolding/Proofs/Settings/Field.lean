import CodeFolding.Settings.Merge
import Mathlib.Data.List.Sort
/-!
# Settings, key by key

Every key has one setting, and all settings have keys. What a value makes of the setting of its key
depends on this setting alone, and no other setting changes. Main statement: `set_eq`.
-/
namespace CodeFolding

/-! ## Sets of names -/

namespace NameSet

variable {a b : NameSet}

theorem eq_of_mem_iff (h : ∀ x, x ∈ a ↔ x ∈ b) : a = b := by
  have hlists : a.toList = b.toList := by
    have : Std.Irrefl fun x y : String => x < y := ⟨String.lt_irrefl⟩
    have : Std.Antisymm fun x y : String => x < y :=
      ⟨fun _ _ hlt hgt => absurd hgt (String.lt_asymm hlt)⟩
    exact a.ascending.eq_of_mem_iff b.ascending h
  cases a
  cases b
  simpa using hlists

theorem insertAll_insertAll (a : NameSet) (names : List String) :
    (a.insertAll names).insertAll names = a.insertAll names := by
  refine eq_of_mem_iff fun x => ?_
  rw [mem_insertAll, mem_insertAll, ← or_assoc, or_self]

end NameSet

/-! ## Keys and their settings -/

/-- What the setting of a key may be. -/
def SettingKey.Field : SettingKey → Type
  | .tabSize => Nat
  | .startOffset => RegionStart
  | .activationMarker | .startMarker | .endMarker => Text
  | .requireActivation => Bool
  | .extensions | .skipDirs => NameSet

namespace Settings

def get (s : Settings) : (k : SettingKey) → k.Field
  | .tabSize => s.layout.tabSize
  | .startOffset => s.layout.regionStart
  | .activationMarker => s.activation
  | .startMarker => s.markers.opening
  | .endMarker => s.markers.closing
  | .requireActivation => s.requireActivation
  | .extensions => s.extensions
  | .skipDirs => s.skipDirs

/-- The settings with another one for a key. -/
def put (s : Settings) : (k : SettingKey) → k.Field → Settings
  | .tabSize, n => { s with layout.tabSize := n }
  | .startOffset, p => { s with layout.regionStart := p }
  | .activationMarker, m => { s with activation := m }
  | .startMarker, m => { s with markers.opening := m }
  | .endMarker, m => { s with markers.closing := m }
  | .requireActivation, b => { s with requireActivation := b }
  | .extensions, names => { s with extensions := names }
  | .skipDirs, names => { s with skipDirs := names }

variable {s s' : Settings} {k k' : SettingKey}

theorem eq_of_get_eq (h : ∀ k, s.get k = s'.get k) : s = s' := by
  obtain ⟨⟨tabSize, start⟩, activation, ⟨opening, closing⟩, gate, extensions, skip⟩ := s
  obtain ⟨⟨tabSize', start'⟩, activation', ⟨opening', closing'⟩, gate', extensions', skip'⟩ := s'
  obtain rfl : tabSize = tabSize' := h .tabSize
  obtain rfl : start = start' := h .startOffset
  obtain rfl : activation = activation' := h .activationMarker
  obtain rfl : opening = opening' := h .startMarker
  obtain rfl : closing = closing' := h .endMarker
  obtain rfl : gate = gate' := h .requireActivation
  obtain rfl : extensions = extensions' := h .extensions
  obtain rfl : skip = skip' := h .skipDirs
  rfl

@[simp] theorem get_put (s : Settings) (k : SettingKey) (a : k.Field) : (s.put k a).get k = a := by
  cases k <;> rfl

theorem get_put_of_ne (a : k.Field) (h : k' ≠ k) : (s.put k a).get k' = s.get k' := by
  cases k <;> cases k' <;> try rfl
  all_goals exact absurd rfl h

@[simp] theorem put_get (s : Settings) (k : SettingKey) : s.put k (s.get k) = s := by
  cases k <;> rfl

end Settings

/-- What a value makes of the setting of a key, or why it is refused. -/
def SettingKey.change (k : SettingKey) (v : Toml.Value) (old : k.Field) : Except Warning k.Field :=
  ((({} : Settings).put k old).set k v).map (·.get k)

/-- **A value reads and writes the setting of its key alone.** -/
theorem Settings.set_eq (s : Settings) (k : SettingKey) (v : Toml.Value) :
    s.set k v = (k.change v (s.get k)).map (s.put k) := by
  cases k with
  | tabSize =>
    simp only [SettingKey.change, set]
    cases v.integer? with
    | none => rfl
    | some n => by_cases hn : 1 ≤ n <;> simp only [hn, if_true, if_false] <;> rfl
  | startOffset =>
    simp only [SettingKey.change, set]
    cases v.string?.bind RegionStart.ofName? <;> rfl
  | activationMarker =>
    simp only [SettingKey.change, set]
    cases markerOf .activationMarker v <;> rfl
  | startMarker =>
    simp only [SettingKey.change, set]
    cases markerOf .startMarker v <;> rfl
  | endMarker =>
    simp only [SettingKey.change, set]
    cases markerOf .endMarker v <;> rfl
  | requireActivation =>
    simp only [SettingKey.change, set]
    cases v.boolean? <;> rfl
  | extensions =>
    simp only [SettingKey.change, set]
    cases namesOf v <;> rfl
  | skipDirs =>
    simp only [SettingKey.change, set]
    cases namesOf v <;> rfl

/-! ## What values mean -/

def Toml.Value.isString (v : Toml.Value) : Bool := v.string?.isSome

theorem Toml.Value.filter_isString (items : List Toml.Value) :
    items.filter isString = (items.filterMap string?).map string := by
  induction items with
  | nil => rfl
  | cons v items ih =>
    cases v <;> simp [List.filter_cons, List.filterMap_cons, isString, string?, ih]

namespace RegionStart

theorem ofName?_eq_some_iff {name : String} {p : RegionStart} :
    ofName? name = some p ↔ name = p.name := by
  constructor
  · intro h
    exact (by simpa using List.find?_some h : p.name = name).symm
  · rintro rfl
    exact ofName?_name p

end RegionStart

/-- The key that a warning is about. -/
def Warning.about? : Warning → Option SettingKey
  | tabSize _ => some .tabSize
  | startOffset => some .startOffset
  | marker key => some key
  | requireActivation => some .requireActivation
  | unknownKey .. | unreadable | malformed => none

namespace SettingKey

/-- Whether the values of a key are lists of names. -/
def isList : SettingKey → Bool
  | extensions | skipDirs => true
  | _ => false

/-- A value suits a key, and means a change of the key's setting. -/
inductive Means : (k : SettingKey) → Toml.Value → (k.Field → k.Field) → Prop where
  /-- A tab size is a positive number. -/
  | tabSize (n : Nat) (positive : 1 ≤ n) : Means .tabSize (.integer n) fun _ => n
  /-- A start is written by its name. -/
  | startOffset (p : RegionStart) : Means .startOffset (.string p.name) fun _ => p
  /-- A marker is not empty. -/
  | activationMarker (m : String) (nonempty : m ≠ "") :
    Means .activationMarker (.string m) fun _ => m.toList
  | startMarker (m : String) (nonempty : m ≠ "") :
    Means .startMarker (.string m) fun _ => m.toList
  | endMarker (m : String) (nonempty : m ≠ "") :
    Means .endMarker (.string m) fun _ => m.toList
  | requireActivation (b : Bool) : Means .requireActivation (.boolean b) fun _ => b
  /-- Extensions take the place of those before. -/
  | extensions (v : Toml.Value) (names : List String)
    (items : v.items? = some (names.map .string)) :
    Means .extensions v fun _ => NameSet.ofList (names.map bareExtension)
  /-- Directories are added to those before. -/
  | skipDirs (v : Toml.Value) (names : List String)
    (items : v.items? = some (names.map .string)) :
    Means .skipDirs v fun old => old.insertAll names

variable {k : SettingKey} {v : Toml.Value} {u : k.Field → k.Field} {old new : k.Field}

theorem Means.idempotent (h : k.Means v u) (old : k.Field) : u (u old) = u old := by
  cases h with
  | skipDirs _ names => exact NameSet.insertAll_insertAll old names
  | _ => rfl

theorem namesOf_strings {names : List String} (h : v.items? = some (names.map .string)) :
    namesOf v = some names := by
  simp [namesOf, h, List.filterMap_map, Function.comp_def, Toml.Value.string?]

theorem markerOf_string {m : String} (h : m ≠ "") : markerOf k (.string m) = .ok m.toList := by
  simp [markerOf, Toml.Value.string?, h]

/-- **A value that suits a key is taken for what it means.** -/
theorem change_of_means (h : k.Means v u) (old : k.Field) : k.change v old = .ok (u old) := by
  cases h with
  | tabSize n positive =>
    have hn : (1 : Int) ≤ n := by omega
    simp only [change, Settings.set, Toml.Value.integer?, hn, if_true]
    rfl
  | startOffset p =>
    simp only [change, Settings.set, Toml.Value.string?, Option.bind_some,
      RegionStart.ofName?_name]
    rfl
  | activationMarker m nonempty =>
    simp only [change, Settings.set, markerOf_string nonempty]
    rfl
  | startMarker m nonempty =>
    simp only [change, Settings.set, markerOf_string nonempty]
    rfl
  | endMarker m nonempty =>
    simp only [change, Settings.set, markerOf_string nonempty]
    rfl
  | requireActivation b => rfl
  | extensions _ names items =>
    simp only [change, Settings.set, namesOf_strings items]
    rfl
  | skipDirs _ names items =>
    simp only [change, Settings.set, namesOf_strings items]
    rfl

/-- A key that every text but the empty one suits has no other markers. -/
theorem markerOf_of_not_means (hk : ∀ m, m ≠ "" → ∃ u, k.Means (.string m) u)
    (h : ∀ u, ¬ k.Means v u) : markerOf k v = .error (.marker k) := by
  cases v with
  | string m =>
    obtain rfl : m = "" := by
      by_contra hm
      obtain ⟨u, hu⟩ := hk m hm
      exact h u hu
    rfl
  | _ => rfl

/-- **A value that does not suit its key is refused, unless lists are asked for.** -/
theorem exists_error_of_not_means (hk : k.isList = false) (h : ∀ u, ¬ k.Means v u)
    (old : k.Field) : ∃ w, k.change v old = .error w ∧ w.about? = some k := by
  cases k with
  | tabSize =>
    cases v with
    | integer n =>
      by_cases hn : 1 ≤ n
      · obtain ⟨m, rfl⟩ : ∃ m : Nat, n = m := ⟨n.toNat, by omega⟩
        exact absurd (.tabSize m (by omega)) (h _)
      · refine ⟨.tabSize old, ?_, rfl⟩
        simp only [change, Settings.set, Toml.Value.integer?, hn, if_false]
        rfl
    | _ => exact ⟨_, rfl, rfl⟩
  | startOffset =>
    cases v with
    | string name =>
      cases hp : RegionStart.ofName? name with
      | none =>
        refine ⟨.startOffset, ?_, rfl⟩
        simp only [change, Settings.set, Toml.Value.string?, Option.bind_some, hp]
        rfl
      | some p =>
        obtain rfl := RegionStart.ofName?_eq_some_iff.1 hp
        exact absurd (.startOffset p) (h _)
    | _ => exact ⟨_, rfl, rfl⟩
  | activationMarker =>
    have hrefused := markerOf_of_not_means (fun m hm => ⟨_, .activationMarker m hm⟩) h
    refine ⟨.marker .activationMarker, ?_, rfl⟩
    simp only [change, Settings.set, hrefused]
    rfl
  | startMarker =>
    have hrefused := markerOf_of_not_means (fun m hm => ⟨_, .startMarker m hm⟩) h
    refine ⟨.marker .startMarker, ?_, rfl⟩
    simp only [change, Settings.set, hrefused]
    rfl
  | endMarker =>
    have hrefused := markerOf_of_not_means (fun m hm => ⟨_, .endMarker m hm⟩) h
    refine ⟨.marker .endMarker, ?_, rfl⟩
    simp only [change, Settings.set, hrefused]
    rfl
  | requireActivation =>
    cases v with
    | boolean b => exact absurd (.requireActivation b) (h _)
    | _ => exact ⟨_, rfl, rfl⟩
  | extensions | skipDirs => cases hk

theorem change_of_not_list (hk : k.isList = true) (h : v.items? = none) (old : k.Field) :
    k.change v old = .ok old := by
  have hnames : namesOf v = none := by rw [namesOf, h, Option.map_none]
  cases k with
  | extensions | skipDirs =>
    simp only [change, Settings.set, hnames]
    rfl
  | _ => cases hk

/-- **Where lists are asked for, a list is taken for the strings in it.** -/
theorem exists_means_of_list {items : List Toml.Value} (hk : k.isList = true)
    (h : v.items? = some items) :
    ∃ u, k.Means (.array (items.filter (·.isString))) u ∧
      ∀ old, k.change v old = .ok (u old) := by
  have hnames : namesOf v = some (items.filterMap Toml.Value.string?) := by
    rw [namesOf, h, Option.map_some]
  have hstrings : (Toml.Value.array (items.filter (·.isString))).items? =
      some ((items.filterMap Toml.Value.string?).map .string) :=
    congrArg some (Toml.Value.filter_isString items)
  cases k with
  | extensions =>
    refine ⟨_, .extensions _ _ hstrings, fun old => ?_⟩
    simp only [change, Settings.set, hnames]
    rfl
  | skipDirs =>
    refine ⟨_, .skipDirs _ _ hstrings, fun old => ?_⟩
    simp only [change, Settings.set, hnames]
    rfl
  | _ => cases hk

/-- **Whether a value is taken does not depend on the setting**, and a value that is taken need be
taken once only. -/
theorem change_cases (k : SettingKey) (v : Toml.Value) :
    (∃ u : k.Field → k.Field,
      (∀ old, k.change v old = .ok (u old)) ∧ ∀ old, u (u old) = u old) ∨
      ∀ old, ∃ w, k.change v old = .error w ∧ w.about? = some k := by
  by_cases hm : ∃ u, k.Means v u
  · obtain ⟨u, hu⟩ := hm
    exact .inl ⟨u, change_of_means hu, hu.idempotent⟩
  cases hk : k.isList with
  | false => exact .inr (exists_error_of_not_means hk (not_exists.1 hm))
  | true =>
    cases hv : v.items? with
    | none => exact .inl ⟨id, change_of_not_list hk hv, fun _ => rfl⟩
    | some items =>
      obtain ⟨u, hu, hchange⟩ := exists_means_of_list hk hv
      exact .inl ⟨u, hchange, hu.idempotent⟩

end SettingKey

end CodeFolding
