import CodeFolding.Text.Basic
import Mathlib.Data.List.Basic
import Mathlib.Data.List.Infix
/-!
# Balanced brackets

A text closes the brackets that are open in front of it if none of its fronts closes more than are
open there, and none is left open behind it. Main statement: what is behind the closing bracket
follows a text of this kind, and there is no other way to find it (`behindClosing_eq_some_iff`).
-/
namespace CodeFolding.Text

variable {opening closing : Char} {depth : Nat} {t : Text}

/-- The text closes the brackets it opens and `depth` more that are open in front of it. -/
structure Closes (opening closing : Char) (depth : Nat) (t : Text) : Prop where
  count_eq : t.count closing = depth + t.count opening
  count_le : ∀ front, front <+: t → front.count closing ≤ depth + front.count opening

instance (opening closing : Char) (depth : Nat) (t : Text) :
    Decidable (Closes opening closing depth t) :=
  decidable_of_iff (t.count closing = depth + t.count opening ∧
      ∀ front ∈ t.inits, front.count closing ≤ depth + front.count opening) <| by
    simp only [List.mem_inits]
    exact ⟨fun h => ⟨h.1, h.2⟩, fun h => ⟨h.count_eq, h.count_le⟩⟩

/-- Every bracket of the text has its partner in it. -/
abbrev IsBalanced (opening closing : Char) (t : Text) : Prop := Closes opening closing 0 t

theorem closes_nil_iff : Closes opening closing depth [] ↔ depth = 0 := by
  constructor
  · intro h
    simpa using h.count_eq.symm
  · rintro rfl
    refine ⟨rfl, fun front hfront => ?_⟩
    obtain rfl := List.prefix_nil.1 hfront
    simp

theorem isBalanced_of_not_mem (hopening : opening ∉ t) (hclosing : closing ∉ t) :
    IsBalanced opening closing t := by
  refine ⟨?_, fun front hfront => ?_⟩
  · rw [List.count_eq_zero_of_not_mem hopening, List.count_eq_zero_of_not_mem hclosing]
  · rw [List.count_eq_zero_of_not_mem fun h => hclosing (hfront.subset h)]
    exact Nat.zero_le _

theorem closes_cons_iff_of_count {depth' : Nat} {c : Char}
    (h : ∀ s : Text, (s.count closing ≤ depth' + s.count opening ↔
        (c :: s).count closing ≤ depth + (c :: s).count opening) ∧
      (s.count closing = depth' + s.count opening ↔
        (c :: s).count closing = depth + (c :: s).count opening)) :
    Closes opening closing depth (c :: t) ↔ Closes opening closing depth' t := by
  constructor
  · rintro ⟨heq, hle⟩
    exact ⟨((h t).2).2 heq, fun front hfront =>
      ((h front).1).2 (hle (c :: front) (List.cons_prefix_cons.2 ⟨rfl, hfront⟩))⟩
  · rintro ⟨heq, hle⟩
    refine ⟨((h t).2).1 heq, fun front hfront => ?_⟩
    rcases List.prefix_cons_iff.1 hfront with rfl | ⟨behind, rfl, hbehind⟩
    · simp
    · exact ((h behind).1).1 (hle behind hbehind)

theorem closes_cons_opening (hne : opening ≠ closing) :
    Closes opening closing depth (opening :: t) ↔ Closes opening closing (depth + 1) t := by
  refine closes_cons_iff_of_count fun s => ?_
  rw [List.count_cons_of_ne hne, List.count_cons_self]
  omega

theorem closes_cons_closing (hne : opening ≠ closing) :
    Closes opening closing (depth + 1) (closing :: t) ↔ Closes opening closing depth t := by
  refine closes_cons_iff_of_count fun s => ?_
  rw [List.count_cons_of_ne hne.symm, List.count_cons_self]
  omega

theorem closes_cons_other {c : Char} (hopening : c ≠ opening) (hclosing : c ≠ closing) :
    Closes opening closing depth (c :: t) ↔ Closes opening closing depth t := by
  refine closes_cons_iff_of_count fun s => ?_
  rw [List.count_cons_of_ne hopening, List.count_cons_of_ne hclosing]
  exact ⟨Iff.rfl, Iff.rfl⟩

theorem not_isBalanced_cons_closing (hne : opening ≠ closing) :
    ¬ IsBalanced opening closing (closing :: t) := by
  intro h
  have hle := h.count_le [closing] (List.prefix_append [closing] t)
  rw [List.count_singleton_self, List.count_singleton, if_neg (by simpa using hne.symm)] at hle
  omega

theorem exists_closes_cons_iff {depth' : Nat} {c : Char} {rest : Text}
    (hpassed : c = closing → depth ≠ 0)
    (h : ∀ inner, Closes opening closing depth (c :: inner) ↔
      Closes opening closing depth' inner) :
    (∃ inner, c :: t = inner ++ closing :: rest ∧ Closes opening closing depth inner) ↔
      ∃ inner, t = inner ++ closing :: rest ∧ Closes opening closing depth' inner := by
  constructor
  · rintro ⟨inner, ht, hinner⟩
    cases inner with
    | nil => exact absurd (closes_nil_iff.1 hinner) (hpassed (List.cons.inj ht).1)
    | cons d inner =>
      obtain ⟨rfl, rfl⟩ := List.cons.inj ht
      exact ⟨inner, rfl, (h inner).1 hinner⟩
  · rintro ⟨inner, rfl, hinner⟩
    exact ⟨c :: inner, rfl, (h inner).2 hinner⟩

/-- **What is behind the bracket that closes the innermost of `depth + 1` open ones.** -/
theorem behindClosing_eq_some_iff (hne : opening ≠ closing) {rest : Text} :
    behindClosing opening closing (depth + 1) t = some rest ↔
      ∃ inner, t = inner ++ closing :: rest ∧ Closes opening closing depth inner := by
  induction t generalizing depth with
  | nil => simp [behindClosing]
  | cons c t ih =>
    unfold behindClosing
    by_cases hopening : c = opening
    · subst hopening
      rw [if_pos rfl, ih]
      exact (exists_closes_cons_iff (absurd · hne) fun _ => closes_cons_opening hne).symm
    · rw [if_neg hopening]
      by_cases hclosing : c = closing
      · subst hclosing
        rw [if_pos rfl]
        cases depth with
        | zero =>
          -- this is the closing bracket: a balanced text before it has nothing to pass
          constructor
          · intro h
            exact ⟨[], by rw [Option.some.inj h]; rfl, closes_nil_iff.2 rfl⟩
          · rintro ⟨inner, ht, hinner⟩
            cases inner with
            | nil => rw [(List.cons.inj ht).2]
            | cons d inner =>
              obtain ⟨rfl, rfl⟩ := List.cons.inj ht
              exact absurd hinner (not_isBalanced_cons_closing hne)
        | succ depth =>
          show behindClosing opening c (depth + 1) t = some rest ↔ _
          rw [ih]
          exact (exists_closes_cons_iff (fun _ => Nat.succ_ne_zero depth)
            fun _ => closes_cons_closing hne).symm
      · rw [if_neg hclosing, ih]
        exact (exists_closes_cons_iff (absurd · hclosing)
          fun _ => closes_cons_other hopening hclosing).symm

/-- **Read from its end, a balanced text is balanced with the brackets in each other's place.** -/
theorem IsBalanced.reverse (h : IsBalanced opening closing t) :
    IsBalanced closing opening t.reverse := by
  have heq : t.count closing = t.count opening := by simpa using h.count_eq
  refine ⟨by simp [heq], fun front ⟨rest, hrest⟩ => ?_⟩
  obtain rfl : t = rest.reverse ++ front.reverse := by
    rw [← List.reverse_append, hrest, List.reverse_reverse]
  have hle := h.count_le rest.reverse (List.prefix_append _ _)
  simp only [List.count_append, List.count_reverse] at heq hle
  omega

end CodeFolding.Text
