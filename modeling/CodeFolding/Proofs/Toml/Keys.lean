import CodeFolding.Toml.Parser
import Mathlib.Data.List.Sort
/-!
# The keys of a table

A document gives a table no key twice: a key is added only where it is new, and a value that is
changed keeps its key. Sorted, the keys of the table that is read ascend. Main statement:
`isAscending_of_parse`.
-/
namespace CodeFolding.Toml

namespace Entries

def keys (es : Entries) : List String := es.map Prod.fst

/-- The keys of a table ascend, each of them once. -/
def IsAscending (es : Entries) : Prop := es.keys.Pairwise (· < ·)

instance (es : Entries) : Decidable es.IsAscending :=
  inferInstanceAs (Decidable (es.keys.Pairwise (· < ·)))

variable {es : Entries} {key : String}

theorem isSome_get?_iff : (es.get? key).isSome ↔ key ∈ es.keys := by
  have hnone : es.get? key = none ↔ key ∉ es.keys := by
    rw [get?, List.lookup_eq_none_iff, keys, List.mem_map]
    constructor
    · rintro h ⟨p, hp, rfl⟩
      exact absurd (h p hp) (by simp)
    · intro h p hp
      exact bne_iff_ne.2 fun hkey => h ⟨p, hp, hkey.symm⟩
  rw [← Option.ne_none_iff_isSome, Ne, hnone, not_not]

theorem keys_set (es : Entries) (key : String) (v : Value) : (es.set key v).keys = es.keys := by
  rw [set, keys, keys, List.map_map]
  refine List.map_congr_left fun e _ => ?_
  dsimp only [Function.comp_apply]
  split
  · next h => exact h.symm
  · rfl

theorem nodup_keys_add (v : Value) (h : es.keys.Nodup) (hnew : es.get? key = none) :
    (es.add key v).keys.Nodup := by
  have hkey : key ∉ es.keys := by
    rw [← isSome_get?_iff, hnew]
    exact Bool.false_ne_true
  rw [add, keys, List.map_append, List.map_singleton]
  refine List.nodup_append.2 ⟨h, List.nodup_singleton key, fun a ha b hb => ?_⟩
  rintro rfl
  obtain rfl : a = key := List.mem_singleton.1 hb
  exact hkey ha

/-! ## Changes of a table -/

/-- A change gives no table a key twice. -/
def KeepsKeys (change : Origin → Entries → Option Entries) : Prop :=
  ∀ origin es es', es.keys.Nodup → change origin es = some es' → es'.keys.Nodup

theorem keepsKeys_addNew (isDotted : Bool) (key : String) (v : Value) :
    KeepsKeys (addNew isDotted key v) := by
  intro origin es es' h hnew
  unfold addNew at hnew
  split at hnew
  · cases hnew
  · next habsent =>
    obtain rfl := Option.some.inj hnew
    simp only [Bool.or_eq_true, not_or, Bool.not_eq_true, Option.isSome_eq_false_iff,
      Option.isNone_iff_eq_none] at habsent
    exact nodup_keys_add v h habsent.2

/-- **What keeps the keys of a table does so at the end of a path,** where the tables on the way
keep theirs or are made. -/
theorem keepsKeys_changeAt {change : Origin → Entries → Option Entries} (dotted : Bool)
    (path : List String) (h : KeepsKeys change) : KeepsKeys (changeAt dotted change path) := by
  intro origin es es' hes hchange
  cases path with
  | nil => exact h origin es es' hes (by rwa [changeAt] at hchange)
  | cons key path =>
    rw [changeAt] at hchange
    cases hkey : es.get? key with
    | none =>
      simp only [hkey, Option.bind_eq_bind, Option.bind_eq_some_iff, Option.pure_def,
        Option.some.injEq] at hchange
      obtain ⟨inner, -, rfl⟩ := hchange
      exact nodup_keys_add _ hes hkey
    | some v =>
      have hset : ∃ w, es' = es.set key w := by
        simp only [hkey] at hchange
        split at hchange
        · next hnone => cases hnone
        · split at hchange
          · cases hchange
          · simp only [Option.bind_eq_bind, Option.bind_eq_some_iff, Option.pure_def,
              Option.some.injEq] at hchange
            obtain ⟨inner, -, rfl⟩ := hchange
            exact ⟨_, rfl⟩
        · simp only [Option.bind_eq_bind, Option.bind_eq_some_iff, Option.pure_def,
            Option.some.injEq] at hchange
          obtain ⟨inner, -, rfl⟩ := hchange
          exact ⟨_, rfl⟩
        · cases hchange
      obtain ⟨w, rfl⟩ := hset
      rwa [keys_set]

theorem keepsKeys_addValue (path : List String) (key : String) (v : Value) (origin : Origin) :
    KeepsKeys fun _ => addValue path key v origin :=
  fun _ es es' => keepsKeys_changeAt true path (keepsKeys_addNew _ key v) origin es es'

/-- A table that a header defines is a new one, or the header takes it over. -/
theorem keepsKeys_beginTable (key : String) : KeepsKeys fun _ => beginTable key := by
  intro _ es es' hes hbegin
  change beginTable key es = some es' at hbegin
  unfold beginTable at hbegin
  split at hbegin
  · next hkey => exact Option.some.inj hbegin ▸ nodup_keys_add _ hes hkey
  · rw [← Option.some.inj hbegin, keys_set]
    exact hes
  · cases hbegin

theorem keepsKeys_beginItem (key : String) : KeepsKeys fun _ => beginItem key := by
  intro _ es es' hes hbegin
  change beginItem key es = some es' at hbegin
  unfold beginItem at hbegin
  split at hbegin
  · next hkey => exact Option.some.inj hbegin ▸ nodup_keys_add _ hes hkey
  · rw [← Option.some.inj hbegin, keys_set]
    exact hes
  · cases hbegin

end Entries

open Entries

/-! ## Documents -/

namespace Reading

variable {d d' : Reading}

theorem nodup_keys_addPair {path : List String} {key : String} {v : Value}
    (h : d.root.keys.Nodup) (hadd : d.addPair path key v = some d') : d'.root.keys.Nodup := by
  simp only [addPair, Option.bind_eq_bind, Option.bind_eq_some_iff, Option.pure_def,
    Option.some.injEq] at hadd
  obtain ⟨root, hroot, rfl⟩ := hadd
  exact keepsKeys_changeAt false d.header (keepsKeys_addValue path key v .header) _ _ _ h hroot

theorem nodup_keys_addHeader {begin? : String → Entries → Option Entries} {steps : List String}
    (hbegin : ∀ key, KeepsKeys fun _ => begin? key) (h : d.root.keys.Nodup)
    (hadd : d.addHeader begin? steps = some d') : d'.root.keys.Nodup := by
  simp only [addHeader, Option.bind_eq_bind, Option.bind_eq_some_iff, Option.pure_def,
    Option.some.injEq] at hadd
  obtain ⟨key, -, root, hroot, rfl⟩ := hadd
  exact keepsKeys_changeAt false steps.dropLast (hbegin key) _ _ _ h hroot

end Reading

theorem nodup_keys_expression? {d d' : Reading} {t rest : Text} (h : d.root.keys.Nodup)
    (hread : expression? d t = some (d', rest)) : d'.root.keys.Nodup := by
  unfold expression? at hread
  split at hread
  · simp only [Option.bind_eq_bind, Option.bind_eq_some_iff, Option.pure_def, Option.some.injEq,
      Prod.mk.injEq] at hread
    obtain ⟨_, _, _, hadd, _, _, _, _, rfl, _⟩ := hread
    exact Reading.nodup_keys_addHeader keepsKeys_beginItem h hadd
  · simp only [Option.bind_eq_bind, Option.bind_eq_some_iff, Option.pure_def, Option.some.injEq,
      Prod.mk.injEq] at hread
    obtain ⟨_, _, _, hadd, _, _, rfl, _⟩ := hread
    exact Reading.nodup_keys_addHeader keepsKeys_beginTable h hadd
  · simp only [Option.bind_eq_bind, Option.bind_eq_some_iff, Option.pure_def, Option.some.injEq,
      Prod.mk.injEq] at hread
    obtain ⟨_, _, _, hadd, rfl, _⟩ := hread
    exact Reading.nodup_keys_addPair h hadd

theorem nodup_keys_readLines {fuel : Nat} {t : Text} {d d' : Reading} (h : d.root.keys.Nodup)
    (hread : readLines fuel t d = some d') : d'.root.keys.Nodup := by
  fun_induction readLines fuel t d with
  | case1 => exact Option.some.inj hread ▸ h
  | case2 => cases hread
  | case3 fuel t d _ rest _ ih => exact ih h hread
  | case4 fuel t d _ _ ih =>
    simp only [Option.bind_eq_bind, Option.bind_eq_some_iff] at hread
    obtain ⟨⟨next, behind⟩, hnext, rest, -, hrest⟩ := hread
    exact ih next rest (nodup_keys_expression? h hnext) hrest

/-- **The keys of the table of a document ascend.** -/
theorem isAscending_of_parse {t : Text} {es : Entries} (h : parse t = some es) :
    es.IsAscending := by
  simp only [parse, Option.bind_eq_bind, Option.bind_eq_some_iff, Option.pure_def,
    Option.some.injEq] at h
  obtain ⟨d, hd, rfl⟩ := h
  have hnodup : d.root.keys.Nodup := nodup_keys_readLines (d := {}) List.nodup_nil hd
  have hkeys : (keys (d.root.mergeSort fun a b => a.1 ≤ b.1)).Nodup :=
    ((List.mergeSort_perm _ _).map Prod.fst).nodup_iff.2 hnodup
  have hsorted : (keys (d.root.mergeSort fun a b => a.1 ≤ b.1)).Pairwise (· ≤ ·) := by
    rw [keys, List.pairwise_map]
    refine (List.pairwise_mergeSort (fun a b c hab hbc => ?_) (fun a b => ?_) _).imp fun h => ?_
    · exact decide_eq_true (String.le_trans (of_decide_eq_true hab) (of_decide_eq_true hbc))
    · simpa using String.le_total a.1 b.1
    · exact of_decide_eq_true h
  refine (hsorted.and hkeys).imp fun ⟨hle, hne⟩ => ?_
  exact String.not_le.1 fun hge => hne (String.le_antisymm hle hge)

end CodeFolding.Toml
