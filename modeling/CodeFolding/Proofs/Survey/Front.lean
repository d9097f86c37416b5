import CodeFolding.Proofs.Survey.Methods
import CodeFolding.Proofs.Token.Boundary
/-!
# What the front of a file settles

A file that is cut behind one of its tokens has the tokens in front of the cut, so what they say
stays as it is whatever comes behind them. Main statements: the tokens of a front
(`tokens_eq_of_cutsAt`), and that a front has the methods that are closed in it (`survey_of_front`).
-/
namespace CodeFolding

/-! ## The tokens of a front -/

namespace Language

variable {lang : Language} {front rest : Text}

/-- The lexer cuts the text `front ++ rest` between its two parts. -/
def CutsAt (lang : Language) (front rest : Text) : Prop :=
  ∃ ks ls, lang.tokens (front ++ rest) = ks ++ ls ∧ ks.flatMap Token.text = front

/-- **A text that is cut in two has the tokens of both parts.** -/
theorem tokens_eq_of_cutsAt (h : lang.CutsAt front rest) :
    lang.tokens (front ++ rest) = lang.tokens front ++ lang.tokens rest := by
  obtain ⟨ks, ls, hsplit, hfront⟩ := h
  have hall : lang.tokens front = lang.tokens front ++ [] := (List.append_nil _).symm
  obtain rfl : ks = lang.tokens front :=
    eq_of_common_front hsplit hall (hfront.trans (flatMap_tokens lang front).symm)
  have hrest : ls.flatMap Token.text = rest := by
    have htext := flatMap_tokens lang (front ++ rest)
    rw [hsplit, List.flatMap_append, hfront] at htext
    exact List.append_cancel_left htext
  rw [hsplit, eq_tokens_of_append hsplit, hrest]

/-- The tokens of the first part keep their places, and the others lie behind it. -/
theorem placed_eq_of_cutsAt (h : lang.CutsAt front rest) :
    ∃ behind, lang.placed (front ++ rest) = lang.placed front ++ behind ∧
      (∀ k ∈ lang.placed front, k.offset < Text.size front) ∧
      ∀ k ∈ behind, Text.size front ≤ k.offset := by
  have hplaced : lang.placed (front ++ rest) = lang.placed front ++
      PlacedToken.placeFrom (Text.size front) (Text.newlines front) (lang.tokens rest) := by
    rw [placed, tokens_eq_of_cutsAt h, PlacedToken.place_eq, PlacedToken.placeFrom_append,
      flatMap_tokens, ← PlacedToken.place_eq, ← placed, Nat.zero_add, Nat.zero_add]
  refine ⟨_, hplaced, fun k hk => ?_, fun k hk => ?_⟩
  · obtain ⟨ks, ls, hsplit⟩ := List.append_of_mem hk
    have hsize := congrArg Text.size (split_of_placed hsplit)
    have hpos := Text.size_pos (text_ne_nil_of_mem_placed hk)
    rw [(place_of_append hsplit).1]
    simp only [Text.size_append] at hsize
    omega
  · obtain ⟨ks, ls, hsplit⟩ := List.append_of_mem hk
    rw [(PlacedToken.placeFrom_eq_append hsplit).1]
    exact Nat.le_add_right _ _

end Language

/-! ## The methods of a front -/

theorem exists_pairs_foldl (ks : List PlacedToken) (s : BraceStack) :
    ∃ newer, (ks.foldl BraceStack.read s).pairs = newer ++ s.pairs ∧ ∀ p ∈ newer, p.2 ∈ ks := by
  induction ks generalizing s with
  | nil => exact ⟨[], rfl, by simp⟩
  | cons k ks ih =>
    obtain ⟨newer, hnewer, hmem⟩ := ih (s.read k)
    rw [List.foldl_cons, hnewer]
    rcases BraceStack.read_cases s k with ⟨-, h⟩ | ⟨-, -, h⟩ | ⟨-, o, outer, -, h⟩ | ⟨-, -, h⟩
    · exact ⟨newer, by rw [h], fun p hp => List.mem_cons_of_mem _ (hmem p hp)⟩
    · exact ⟨newer, by rw [h], fun p hp => List.mem_cons_of_mem _ (hmem p hp)⟩
    · refine ⟨newer ++ [(o, k)], by rw [h]; simp, fun p hp => ?_⟩
      rcases List.mem_append.1 hp with hp | hp
      · exact List.mem_cons_of_mem _ (hmem p hp)
      · rw [List.mem_singleton.1 hp]
        exact List.mem_cons_self
    · exact ⟨newer, by rw [h], fun p hp => List.mem_cons_of_mem _ (hmem p hp)⟩

/-- The methods of some tokens, by their closing braces, the last one first. -/
def closedMethods (ks : List PlacedToken) : List Method :=
  ((bracePairs ks).filterMap (methodOf ks)).map (Method.withComments (lineComments ks))

theorem withComments_append {m : Method} {ks behind : List PlacedToken} {size : Nat}
    (hm : m.closeOffset < size) (hbehind : ∀ k ∈ behind, size ≤ k.offset) :
    m.withComments (lineComments (ks ++ behind)) = m.withComments (lineComments ks) := by
  have hnone : (lineComments behind).filter (fun c => m.encloses c.1) = [] := by
    rw [List.filter_eq_nil_iff]
    intro c hc
    obtain ⟨k, hk, hkc⟩ := List.mem_filterMap.1 hc
    obtain ⟨-, hkc⟩ := Option.ite_none_right_eq_some.1 hkc
    obtain rfl := Option.some.inj hkc
    have := hbehind k hk
    simp only [Method.encloses, Bool.and_eq_true, decide_eq_true_eq, not_and]
    omega
  rw [Method.withComments, Method.withComments, lineComments, List.filterMap_append,
    List.filter_append]
  rw [lineComments] at hnone
  rw [hnone, List.append_nil]
  rfl

/-- **More tokens change no method that is closed in front of them.** -/
theorem filter_closedMethods {ks behind : List PlacedToken} {size : Nat}
    (hks : ∀ k ∈ ks, k.offset < size) (hbehind : ∀ k ∈ behind, size ≤ k.offset) :
    (closedMethods (ks ++ behind)).filter (fun m => m.closeOffset < size) = closedMethods ks := by
  obtain ⟨newer, hpairs, hnewer⟩ := exists_pairs_foldl behind (ks.foldl BraceStack.read {})
  have hmem : ∀ p ∈ bracePairs ks, p.1 ∈ ks ∧ p.2 ∈ ks := fun p hp => (mem_bracePairs_iff.1 hp).mem
  have hclose : ∀ ls p m, methodOf ls p = some m → m.closeOffset = p.2.offset := fun ls p m hm =>
    (Prod.mk.inj (span_of_methodOf hm)).2
  have hall : bracePairs (ks ++ behind) = newer ++ bracePairs ks := by
    rw [bracePairs, List.foldl_append, hpairs]
    rfl
  have hnone : (newer.filterMap (methodOf (ks ++ behind))).filter (·.closeOffset < size) = [] := by
    rw [List.filter_eq_nil_iff]
    intro m hm
    obtain ⟨p, hp, hpm⟩ := List.mem_filterMap.1 hm
    have := hbehind p.2 (hnewer p hp)
    have := hclose _ p m hpm
    rw [decide_eq_true_eq]
    omega
  have hin : ∀ m ∈ (bracePairs ks).filterMap (methodOf ks), m.closeOffset < size := by
    intro m hm
    obtain ⟨p, hp, hpm⟩ := List.mem_filterMap.1 hm
    rw [hclose _ p m hpm]
    exact hks p.2 (hmem p hp).2
  have hsame : ∀ cs, (fun m : Method => decide (m.closeOffset < size)) ∘ Method.withComments cs =
      fun m => decide (m.closeOffset < size) := fun _ => rfl
  rw [closedMethods, closedMethods, hall, List.filterMap_append, List.map_append,
    List.filter_append, filterMap_methodOf_append (fun p hp => (hmem p hp).1), List.filter_map,
    List.filter_map, hsame, hnone, List.map_nil, List.nil_append,
    List.filter_eq_self.2 fun m hm => decide_eq_true (hin m hm)]
  exact List.map_congr_left fun m hm => withComments_append (hin m hm) hbehind

theorem Survey.methods_perm_closedMethods (t : Text) :
    (Survey.ofText .braces t).methods.Perm (closedMethods (Language.braces.placed t)) := by
  rw [methods_ofText]
  exact (List.mergeSort_perm _ _).map _

variable {lang : Language} {front rest : Text}

/-- **A front that is cut off has the methods that are closed in it.** -/
theorem Survey.methods_eq_filter (h : lang.CutsAt front rest) :
    (Survey.ofText lang front).methods =
      (Survey.ofText lang (front ++ rest)).methods.filter
        fun m => m.closeOffset < Text.size front := by
  by_cases hl : lang = .braces
  · subst hl
    obtain ⟨behind, hplaced, hfront, hbehind⟩ := Language.placed_eq_of_cutsAt h
    refine Survey.methods_eq_of_perm ?_ ((pairwise_openOffset_methods _).filter _)
    have hperm := (methods_perm_closedMethods (front ++ rest)).filter
      fun m => m.closeOffset < Text.size front
    rw [hplaced, filter_closedMethods hfront hbehind] at hperm
    exact hperm.symm
  · simp [ofText, Language.methodFrames, hl]

theorem Survey.docComments_prefix (h : lang.CutsAt front rest) :
    (Survey.ofText lang front).docComments <+:
      (Survey.ofText lang (front ++ rest)).docComments := by
  rw [ofText, ofText, Language.docComments, Language.docComments, Language.tokens_eq_of_cutsAt h,
    List.filter_append, List.map_append]
  exact List.prefix_append _ _

/-- **The front of a file settles its methods.** If a file is cut behind one of its tokens, the part
in front of the cut has just the methods of the file that are closed there, with their names, lines,
offsets and comments, and its documentation comes first in the documentation of the file. So two
files with a common front that are both cut at its end have the same methods closed in it. -/
theorem survey_of_front (ext : String)
    (h : (Language.ofExtension ext).CutsAt front rest) :
    let lang := Language.ofExtension ext
    let closed := fun behind => (Survey.ofText lang (front ++ behind)).methods.filter
      fun m => m.closeOffset < Text.size front
    (Survey.ofText lang front).methods = closed rest ∧
      (Survey.ofText lang front).docComments <+:
        (Survey.ofText lang (front ++ rest)).docComments ∧
      ∀ rest', lang.CutsAt front rest' → closed rest' = closed rest := by
  intro lang closed
  have hclosed := Survey.methods_eq_filter h
  refine ⟨hclosed, Survey.docComments_prefix h, fun rest' h' => ?_⟩
  exact (Survey.methods_eq_filter h').symm.trans hclosed

/-- The front ends between two methods, and two files go on differently behind it. -/
theorem survey_of_front_java :
    let front := "/** a */ int f() \x7b // b\n\x7d ".toList
    let rest := "int g() \x7b\x7d".toList
    let rest' := "/** c */ \x7d 'd".toList
    let closed := fun behind => (Survey.ofText .braces (front ++ behind)).methods.filter
      fun m => m.closeOffset < Text.size front
    Language.braces.CutsAt front rest ∧ Language.braces.CutsAt front rest' ∧
      closed rest = (Survey.ofText .braces front).methods ∧ closed rest' = closed rest ∧
      (Survey.ofText .braces front).methods.map Method.name = ["f".toList] := by
  intro front rest rest' closed
  have hjava : Language.ofExtension "java" = .braces := by decide
  have h : (Language.ofExtension "java").CutsAt front rest :=
    ⟨Language.braces.tokens front, Language.braces.tokens rest, by decide +kernel,
      Language.flatMap_tokens _ _⟩
  have h' : (Language.ofExtension "java").CutsAt front rest' :=
    ⟨Language.braces.tokens front, Language.braces.tokens rest', by decide +kernel,
      Language.flatMap_tokens _ _⟩
  obtain ⟨hmethods, -, hother⟩ := survey_of_front "java" h
  have hclosed := hother rest' h'
  rw [hjava] at h h' hmethods hclosed
  exact ⟨h, h', hmethods.symm, hclosed, by decide +kernel⟩

end CodeFolding
