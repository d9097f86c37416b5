import CodeFolding.Tree.Path
import Mathlib.Data.List.Basic
/-!
# Paths that are put together

The names of files and directories hold no slash. So a path that is put together from names comes
apart into these names: main statements `parts_join` and `steps_join`.
-/
namespace CodeFolding.Path

variable {name p : String} {names names' : List String}

/-- A name that a file or a directory can have. It is no step that stays or goes up, and neither
holds a slash nor the character that ends paths. -/
structure IsName (name : String) : Prop where
  ne_empty : name ≠ ""
  ne_here : name ≠ "."
  ne_above : name ≠ ".."
  slash : '/' ∉ name.toList
  nul : '\x00' ∉ name.toList

instance (name : String) : Decidable (IsName name) :=
  decidable_of_iff
    (name ≠ "" ∧ name ≠ "." ∧ name ≠ ".." ∧ '/' ∉ name.toList ∧ '\x00' ∉ name.toList)
    ⟨fun ⟨hempty, hhere, habove, hslash, hnul⟩ => ⟨hempty, hhere, habove, hslash, hnul⟩,
      fun h => ⟨h.ne_empty, h.ne_here, h.ne_above, h.slash, h.nul⟩⟩

/-! ## Putting together -/

theorem join_cons_cons (name next : String) (names : List String) :
    join (name :: next :: names) = name ++ "/" ++ join (next :: names) := by
  unfold join
  rw [String.intercalate_cons_cons]

theorem toList_prefix_join_cons (name : String) (names : List String) :
    name.toList <+: (join (name :: names)).toList := by
  cases names with
  | nil => simp [join]
  | cons next names =>
    rw [join_cons_cons, String.toList_append, String.toList_append, List.append_assoc]
    exact List.prefix_append _ _

theorem not_mem_join {c : Char} (hc : c ≠ '/') :
    ∀ {names : List String}, (∀ name ∈ names, c ∉ name.toList) → c ∉ (join names).toList
  | [], _ => by simp [join]
  | [name], h => by simpa [join] using h
  | name :: next :: names, h => by
    have ih := not_mem_join hc (List.forall_mem_cons.1 h).2
    have hname := (List.forall_mem_cons.1 h).1
    rw [join_cons_cons]
    simpa [hc, hname] using ih

theorem withSlashes_of_not_mem (h : '\\' ∉ p.toList) : withSlashes p = p := by
  have hsame : p.toList.map (fun c => if c = '\\' then '/' else c) = p.toList := by
    conv_rhs => rw [← List.map_id p.toList]
    refine List.map_congr_left fun c hc => if_neg ?_
    rintro rfl
    exact h hc
  rw [withSlashes, hsame, String.ofList_toList]

/-! ## Taking apart -/

/-- Text without a slash belongs to the step that is running. -/
theorem foldr_addToSteps_of_not_mem {front : Text} (h : '/' ∉ front)
    (state : Text × List String) :
    front.foldr addToSteps state = (front ++ state.1, state.2) := by
  induction front with
  | nil => rfl
  | cons c front ih =>
    have hc : c ≠ '/' := by
      rintro rfl
      exact h List.mem_cons_self
    rw [List.foldr_cons, ih fun hmem => h (List.mem_cons_of_mem c hmem)]
    simp [addToSteps, hc]

theorem parts_of_not_mem (h : '/' ∉ p.toList) : parts p = [p] := by
  unfold parts
  rw [foldr_addToSteps_of_not_mem h]
  simp

theorem parts_append_slash (h : '/' ∉ name.toList) (p : String) :
    parts (name ++ "/" ++ p) = name :: parts p := by
  have hslash : "/".toList = ['/'] := rfl
  unfold parts
  rw [String.toList_append, String.toList_append, hslash, List.append_assoc, List.foldr_append,
    foldr_addToSteps_of_not_mem h]
  simp [addToSteps]

/-- **A path that is put together from names comes apart into these names.** -/
theorem parts_join (hne : names ≠ []) (h : ∀ name ∈ names, '/' ∉ name.toList) :
    parts (join names) = names := by
  induction names with
  | nil => exact absurd rfl hne
  | cons name names ih =>
    obtain ⟨hname, hnames⟩ := List.forall_mem_cons.1 h
    cases names with
    | nil =>
      have hjoin : join [name] = name := by simp [join]
      rw [hjoin, parts_of_not_mem hname]
    | cons next names =>
      rw [join_cons_cons, parts_append_slash hname, ih (by simp) hnames]

theorem join_injective (hne : names ≠ []) (hne' : names' ≠ [])
    (h : ∀ name ∈ names, '/' ∉ name.toList) (h' : ∀ name ∈ names', '/' ∉ name.toList)
    (heq : join names = join names') : names = names' := by
  rw [← parts_join hne h, heq, parts_join hne' h']

theorem steps_join (hne : names ≠ []) (h : ∀ name ∈ names, IsName name) :
    steps (join names) = names := by
  unfold steps
  rw [parts_join hne fun name hname => (h name hname).slash, List.filter_eq_self]
  intro name hname
  simp [(h name hname).ne_empty, (h name hname).ne_here]

theorem extension_join (hne : names ≠ []) (h : ∀ name ∈ names, IsName name) :
    extension (join names) = extensionOf (names.getLastD "") := by
  unfold extension
  rw [steps_join hne h]

theorem mem_of_mem_foldr (t : Text) :
    ∀ part ∈ String.ofList (t.foldr addToSteps ([], [])).1 :: (t.foldr addToSteps ([], [])).2,
      ∀ c ∈ part.toList, c ∈ t ∧ c ≠ '/' := by
  induction t with
  | nil => simp
  | cons d t ih =>
    rw [List.foldr_cons]
    cases hs : t.foldr addToSteps ([], []) with
    | mk step steps =>
      rw [hs] at ih
      have hnext : ∀ part ∈ String.ofList step :: steps, ∀ c ∈ part.toList, c ∈ d :: t ∧ c ≠ '/' :=
        fun part hpart c hc => (ih part hpart c hc).imp_left (List.mem_cons_of_mem d)
      by_cases hd : d = '/'
      · have hstep : addToSteps d (step, steps) = ([], String.ofList step :: steps) := if_pos hd
        rw [hstep]
        intro part hpart c hc
        rcases List.mem_cons.1 hpart with rfl | hpart
        · simp at hc
        · exact hnext part hpart c hc
      · have hstep : addToSteps d (step, steps) = (d :: step, steps) := if_neg hd
        rw [hstep]
        intro part hpart c hc
        rcases List.mem_cons.1 hpart with rfl | hpart
        · rw [String.toList_ofList] at hc
          rcases List.mem_cons.1 hc with rfl | hc
          · exact ⟨List.mem_cons_self, hd⟩
          · exact hnext _ List.mem_cons_self c (by simpa using hc)
        · exact hnext part (List.mem_cons_of_mem _ hpart) c hc

theorem mem_of_mem_parts {part : String} {c : Char} (h : part ∈ parts p) (hc : c ∈ part.toList) :
    c ∈ p.toList ∧ c ≠ '/' :=
  mem_of_mem_foldr p.toList part h c hc

/-- The steps of a path that goes up nowhere are names. -/
theorem isName_of_mem_steps (hup : ".." ∉ parts p) (hnul : '\x00' ∉ p.toList) :
    ∀ name ∈ steps p, IsName name := by
  intro name hname
  obtain ⟨hpart, hleads⟩ := List.mem_filter.1 hname
  have hleads : name ≠ "" ∧ name ≠ "." := by simpa using hleads
  refine ⟨hleads.1, hleads.2, ?_, fun hslash => ?_, fun hmem => ?_⟩
  · rintro rfl
    exact hup hpart
  · exact (mem_of_mem_parts hpart hslash).2 rfl
  · exact hnul (mem_of_mem_parts hpart hmem).1

/-! ## Enclosing directories -/

theorem mem_enclosing_iff {steps directory : List String} :
    directory ∈ enclosing steps ↔ directory <+: steps ∧ directory ≠ steps := by
  unfold enclosing
  simp only [List.mem_map, List.mem_reverse, List.mem_range]
  constructor
  · rintro ⟨i, hi, rfl⟩
    refine ⟨List.take_prefix i steps, fun heq => ?_⟩
    have hlength := congrArg List.length heq
    rw [List.length_take] at hlength
    omega
  · rintro ⟨hbegins, hne⟩
    refine ⟨directory.length, Nat.lt_of_le_of_ne hbegins.length_le fun hlength => ?_, ?_⟩
    · exact hne (hbegins.eq_of_length hlength)
    · exact (List.prefix_iff_eq_take.1 hbegins).symm

theorem pairwise_enclosing (steps : List String) :
    (enclosing steps).Pairwise fun d e => e.length < d.length := by
  unfold enclosing
  rw [List.pairwise_map, List.pairwise_reverse]
  refine List.pairwise_lt_range.imp_of_mem ?_
  intro i j hi hj hij
  rw [List.mem_range] at hi hj
  rw [List.length_take, List.length_take]
  omega

theorem exists_head_join (hne : names ≠ []) (h : ∀ name ∈ names, IsName name) :
    ∃ c rest, (join names).toList = c :: rest ∧ c ≠ '/' := by
  cases names with
  | nil => exact absurd rfl hne
  | cons name names =>
    have hname := h name List.mem_cons_self
    obtain ⟨rest, hrest⟩ := toList_prefix_join_cons name names
    cases hchars : name.toList with
    | nil => exact absurd (String.toList_eq_nil_iff.1 hchars) hname.ne_empty
    | cons c chars =>
      refine ⟨c, chars ++ rest, by rw [← hrest, hchars]; rfl, ?_⟩
      rintro rfl
      apply hname.slash
      rw [hchars]
      exact List.mem_cons_self

theorem isAbsolute_join (hne : names ≠ []) (h : ∀ name ∈ names, IsName name) :
    isAbsolute (join names) = false := by
  obtain ⟨c, rest, hjoin, hc⟩ := exists_head_join hne h
  unfold isAbsolute
  rw [hjoin]
  simp [hc]

theorem join_ne_empty (hne : names ≠ []) (h : ∀ name ∈ names, IsName name) :
    join names ≠ "" := by
  obtain ⟨c, rest, hjoin, -⟩ := exists_head_join hne h
  intro hempty
  rw [hempty] at hjoin
  cases hjoin

end CodeFolding.Path
