import CodeFolding.Token.Basic
import Mathlib.Data.List.Induction
/-!
# Pairs of braces

Braces that are code are matched with a stack: an opening brace waits, a closing brace takes the
innermost one that waits, and a closing brace for which none waits is passed over. Main statements:
two braces make a pair just when the tokens between them are balanced (`mem_bracePairs_iff`), and
two pairs are disjoint or nested (`pairwise_apart_bracePairs`).
-/
namespace CodeFolding

/-- Whether a token is the given character, as code. -/
def PlacedToken.isCode (k : PlacedToken) (c : Char) : Bool := k.kind == .code && k.text == [c]

theorem PlacedToken.isCode_iff {k : PlacedToken} {c : Char} :
    k.isCode c = true ↔ k.kind = .code ∧ k.text = [c] := by
  simp [isCode]

/-- The braces that wait for their partner, innermost first, and the pairs that are complete, the
last one first. -/
structure BraceStack where
  waiting : List PlacedToken := []
  pairs : List (PlacedToken × PlacedToken) := []

def BraceStack.read (s : BraceStack) (k : PlacedToken) : BraceStack :=
  if k.isCode '{' then { s with waiting := k :: s.waiting }
  else if k.isCode '}' then
    match s.waiting with
    | [] => s
    | o :: outer => ⟨outer, (o, k) :: s.pairs⟩
  else s

/-- The pairs of braces in some tokens, in the order of their closing braces, the last one first.
Opening braces that are never closed make none. -/
def bracePairs (ks : List PlacedToken) : List (PlacedToken × PlacedToken) :=
  (ks.foldl BraceStack.read {}).pairs

namespace BraceStack

theorem isCode_open_of_close {k : PlacedToken} (h : k.isCode '}' = true) :
    k.isCode '{' = false := by
  simp only [PlacedToken.isCode, Bool.and_eq_true, beq_iff_eq] at h
  simp [PlacedToken.isCode, h.2]

theorem read_open {s : BraceStack} {k : PlacedToken} (h : k.isCode '{' = true) :
    s.read k = ⟨k :: s.waiting, s.pairs⟩ := by
  simp [read, h]

theorem read_close {s : BraceStack} {k o : PlacedToken} {outer : List PlacedToken}
    (h : k.isCode '}' = true) (hw : s.waiting = o :: outer) :
    s.read k = ⟨outer, (o, k) :: s.pairs⟩ := by
  simp [read, h, isCode_open_of_close h, hw]

theorem read_close_of_nil {s : BraceStack} {k : PlacedToken} (h : k.isCode '}' = true)
    (hw : s.waiting = []) : s.read k = s := by
  simp [read, h, isCode_open_of_close h, hw]

theorem read_other {s : BraceStack} {k : PlacedToken} (ho : k.isCode '{' = false)
    (hc : k.isCode '}' = false) : s.read k = s := by
  simp [read, ho, hc]

theorem read_cases (s : BraceStack) (k : PlacedToken) :
    (k.isCode '{' = true ∧ s.read k = ⟨k :: s.waiting, s.pairs⟩) ∨
    (k.isCode '}' = true ∧ s.waiting = [] ∧ s.read k = s) ∨
    (k.isCode '}' = true ∧ ∃ o outer, s.waiting = o :: outer ∧
      s.read k = ⟨outer, (o, k) :: s.pairs⟩) ∨
    (k.isCode '{' = false ∧ k.isCode '}' = false ∧ s.read k = s) := by
  cases ho : k.isCode '{' with
  | true => exact Or.inl ⟨rfl, read_open ho⟩
  | false =>
    cases hc : k.isCode '}' with
    | true =>
      cases hw : s.waiting with
      | nil => exact Or.inr (Or.inl ⟨rfl, rfl, read_close_of_nil hc hw⟩)
      | cons o outer => exact Or.inr (Or.inr (Or.inl ⟨rfl, o, outer, rfl, read_close hc hw⟩))
    | false => exact Or.inr (Or.inr (Or.inr ⟨rfl, rfl, read_other ho hc⟩))

theorem pairs_suffix_foldl (ks : List PlacedToken) (s : BraceStack) :
    s.pairs <:+ (ks.foldl read s).pairs := by
  induction ks generalizing s with
  | nil => exact List.suffix_refl _
  | cons k ks ih =>
    refine List.IsSuffix.trans ?_ (ih (s.read k))
    rcases read_cases s k with ⟨-, h⟩ | ⟨-, -, h⟩ | ⟨-, o, outer, -, h⟩ | ⟨-, -, h⟩
    · simp only [h, List.suffix_refl]
    · simp only [h, List.suffix_refl]
    · simp only [h, List.suffix_cons]
    · simp only [h, List.suffix_refl]

end BraceStack

/-! ## Balanced tokens -/

/-- Tokens whose braces close each other. -/
inductive Balanced : List PlacedToken → Prop where
  | nil : Balanced []
  | other {k : PlacedToken} {ks : List PlacedToken} : k.isCode '{' = false → k.isCode '}' = false →
      Balanced ks → Balanced (k :: ks)
  | pair {o c : PlacedToken} {inside rest : List PlacedToken} : o.isCode '{' = true →
      c.isCode '}' = true → Balanced inside → Balanced rest →
      Balanced (o :: (inside ++ c :: rest))

theorem Balanced.append {ks ls : List PlacedToken} (hk : Balanced ks) (hl : Balanced ls) :
    Balanced (ks ++ ls) := by
  induction hk with
  | nil => exact hl
  | other ho hc _ ih => exact .other ho hc ih
  | pair ho hc hin _ _ ih =>
    rw [List.cons_append, List.append_assoc, List.cons_append]
    exact .pair ho hc hin ih

theorem Balanced.waiting_foldl {ks : List PlacedToken} (h : Balanced ks) (s : BraceStack) :
    (ks.foldl BraceStack.read s).waiting = s.waiting := by
  induction h generalizing s with
  | nil => rfl
  | other ho hc _ ih => rw [List.foldl_cons, BraceStack.read_other ho hc, ih]
  | @pair o c inside rest ho hc _ _ ihin ihrest =>
    rw [List.foldl_cons, List.foldl_append, List.foldl_cons, ihrest, BraceStack.read_open ho]
    rw [BraceStack.read_close hc (ihin _)]

/-- Two tokens are partners: an opening and a closing brace with balanced tokens between them. -/
def Partners (ks : List PlacedToken) (p : PlacedToken × PlacedToken) : Prop :=
  p.1.isCode '{' = true ∧ p.2.isCode '}' = true ∧
    ∃ front inside rest, ks = front ++ p.1 :: (inside ++ p.2 :: rest) ∧ Balanced inside

theorem Partners.append {ks : List PlacedToken} {p : PlacedToken × PlacedToken}
    (h : Partners ks p) (more : List PlacedToken) : Partners (ks ++ more) p := by
  obtain ⟨ho, hc, front, inside, rest, rfl, hin⟩ := h
  exact ⟨ho, hc, front, inside, rest ++ more, by simp, hin⟩

theorem Partners.mem {ks : List PlacedToken} {p : PlacedToken × PlacedToken}
    (h : Partners ks p) : p.1 ∈ ks ∧ p.2 ∈ ks := by
  obtain ⟨-, -, front, inside, rest, rfl, -⟩ := h
  simp

/-- The braces that wait, each with the balanced tokens behind it. -/
inductive Waits : List PlacedToken → List PlacedToken → Prop where
  | none (ks : List PlacedToken) : Waits ks []
  | brace {front inside outer : List PlacedToken} {o : PlacedToken} : o.isCode '{' = true →
      Balanced inside → Waits front outer → Waits (front ++ o :: inside) (o :: outer)

theorem Waits.mem {ks waiting : List PlacedToken} (h : Waits ks waiting) :
    ∀ o ∈ waiting, o ∈ ks := by
  induction h with
  | none ks => simp
  | brace _ _ _ ih =>
    intro w hw
    rcases List.mem_cons.1 hw with rfl | hw
    · simp
    · simp [ih w hw]

theorem Waits.append {ks waiting more : List PlacedToken} (h : Waits ks waiting)
    (hmore : Balanced more) : Waits (ks ++ more) waiting := by
  cases h with
  | none ks => exact .none _
  | @brace front inside outer o ho hin hout =>
    rw [List.append_assoc, List.cons_append]
    exact .brace ho (hin.append hmore) hout

/-- **One more token keeps what the stack says about the tokens read.** -/
theorem BraceStack.waits_read {ks : List PlacedToken} {s : BraceStack} {k : PlacedToken}
    (hw : Waits ks s.waiting) (hp : ∀ p ∈ s.pairs, Partners ks p) :
    Waits (ks ++ [k]) (s.read k).waiting ∧ ∀ p ∈ (s.read k).pairs, Partners (ks ++ [k]) p := by
  rcases read_cases s k with ⟨ho, h⟩ | ⟨-, hnil, h⟩ | ⟨hc, o, outer, hcons, h⟩ | ⟨ho, hc, h⟩ <;>
    rw [h]
  · exact ⟨.brace ho .nil hw, fun p hpm => (hp p hpm).append _⟩
  · rw [hnil]
    exact ⟨.none _, fun p hpm => (hp p hpm).append _⟩
  · rw [hcons] at hw
    cases hw with
    | @brace front inside _ _ ho hin hout =>
      constructor
      · rw [List.append_assoc, List.cons_append]
        exact hout.append (.pair ho hc hin .nil)
      · intro p hpm
        rcases List.mem_cons.1 hpm with rfl | hpm
        · exact ⟨ho, hc, front, inside, [], by simp, hin⟩
        · exact (hp p hpm).append _
  · exact ⟨hw.append (.other ho hc .nil), fun p hpm => (hp p hpm).append _⟩

theorem waits_foldl (ks : List PlacedToken) :
    Waits ks (ks.foldl BraceStack.read {}).waiting ∧
      ∀ p ∈ (ks.foldl BraceStack.read {}).pairs, Partners ks p := by
  induction ks using List.reverseRecOn with
  | nil => exact ⟨.none _, by simp⟩
  | append_singleton ks k ih =>
    rw [List.foldl_append]
    exact BraceStack.waits_read ih.1 ih.2

/-- **Two braces make a pair just when they are partners.** -/
theorem mem_bracePairs_iff {ks : List PlacedToken} {p : PlacedToken × PlacedToken} :
    p ∈ bracePairs ks ↔ Partners ks p := by
  constructor
  · exact (waits_foldl ks).2 p
  · rintro ⟨ho, hc, front, inside, rest, rfl, hin⟩
    rw [bracePairs, List.foldl_append, List.foldl_cons, List.foldl_append, List.foldl_cons]
    refine (BraceStack.pairs_suffix_foldl rest _).subset ?_
    rw [BraceStack.read_open ho, BraceStack.read_close hc (hin.waiting_foldl _)]
    simp

/-! ## Disjoint and nested pairs -/

/-- Two pairs of braces that are disjoint, or one of which lies inside the other. -/
def Apart (p q : Nat × Nat) : Prop :=
  p.2 < q.1 ∨ q.2 < p.1 ∨ (p.1 < q.1 ∧ q.2 < p.2) ∨ (q.1 < p.1 ∧ p.2 < q.2)

theorem Apart.symm {p q : Nat × Nat} (h : Apart p q) : Apart q p := by
  rcases h with h | h | h | h
  · exact Or.inr (Or.inl h)
  · exact Or.inl h
  · exact Or.inr (Or.inr (Or.inr h))
  · exact Or.inr (Or.inr (Or.inl h))

theorem Apart.fst_ne {p q : Nat × Nat} (h : Apart p q) (hp : p.1 < p.2) (hq : q.1 < q.2) :
    p.1 ≠ q.1 := by
  rcases h with h | h | h | h <;> omega

def offsets (p : PlacedToken × PlacedToken) : Nat × Nat := (p.1.offset, p.2.offset)

/-- What holds of the stack while tokens with ascending offsets are read. -/
structure BraceStack.Nested (s : BraceStack) : Prop where
  waiting_desc : s.waiting.Pairwise fun o outer => outer.offset < o.offset
  ordered : ∀ p ∈ s.pairs, p.1.offset < p.2.offset
  /-- No pair straddles a brace that waits. -/
  beside : ∀ p ∈ s.pairs, ∀ w ∈ s.waiting, p.2.offset < w.offset ∨ w.offset < p.1.offset
  apart : s.pairs.Pairwise fun p q => Apart (offsets p) (offsets q)

theorem BraceStack.Nested.read {s : BraceStack} (h : s.Nested) {k : PlacedToken}
    (hw : ∀ w ∈ s.waiting, w.offset < k.offset) (hp : ∀ p ∈ s.pairs, p.2.offset < k.offset) :
    (s.read k).Nested := by
  rcases read_cases s k with ⟨-, hr⟩ | ⟨-, -, hr⟩ | ⟨-, o, outer, hcons, hr⟩ | ⟨-, -, hr⟩ <;>
    rw [hr]
  · refine ⟨List.pairwise_cons.2 ⟨hw, h.waiting_desc⟩, h.ordered, ?_, h.apart⟩
    intro p hpm w hwm
    rcases List.mem_cons.1 hwm with rfl | hwm
    · exact Or.inl (hp p hpm)
    · exact h.beside p hpm w hwm
  · exact h
  · have hdesc := h.waiting_desc
    rw [hcons, List.pairwise_cons] at hdesc
    have ho : o.offset < k.offset := hw o (by simp [hcons])
    have hbeside : ∀ p ∈ s.pairs, ∀ w ∈ o :: outer,
        p.2.offset < w.offset ∨ w.offset < p.1.offset := hcons ▸ h.beside
    refine ⟨hdesc.2, ?_, ?_, ?_⟩
    · intro p hpm
      rcases List.mem_cons.1 hpm with rfl | hpm
      · exact ho
      · exact h.ordered p hpm
    · intro p hpm w hwm
      rcases List.mem_cons.1 hpm with rfl | hpm
      · exact Or.inr (hdesc.1 w hwm)
      · exact hbeside p hpm w (by simp [hwm])
    · refine List.pairwise_cons.2 ⟨fun p hpm => ?_, h.apart⟩
      -- the pair that is complete now lies around the earlier ones behind its opening brace
      have hpk := hp p hpm
      rcases hbeside p hpm o (by simp) with hlt | hlt
      · exact Or.inr (Or.inl hlt)
      · exact Or.inr (Or.inr (Or.inl ⟨hlt, hpk⟩))
  · exact h

theorem nested_foldl {ks : List PlacedToken} (h : ks.Pairwise fun j k => j.offset < k.offset) :
    (ks.foldl BraceStack.read {}).Nested := by
  induction ks using List.reverseRecOn with
  | nil => exact ⟨by simp, by simp, by simp, by simp⟩
  | append_singleton ks k ih =>
    obtain ⟨hks, -, hlt⟩ := List.pairwise_append.1 h
    obtain ⟨hwait, hpairs⟩ := waits_foldl ks
    rw [List.foldl_append]
    refine (ih hks).read (fun w hw => ?_) (fun p hp => ?_)
    · exact hlt w (hwait.mem w hw) k (by simp)
    · exact hlt p.2 (hpairs p hp).mem.2 k (by simp)

/-- **Pairs of braces are disjoint or nested.** -/
theorem pairwise_apart_bracePairs {ks : List PlacedToken}
    (h : ks.Pairwise fun j k => j.offset < k.offset) :
    (bracePairs ks).Pairwise fun p q => Apart (offsets p) (offsets q) :=
  (nested_foldl h).apart

theorem offset_lt_of_mem_bracePairs {ks : List PlacedToken}
    (h : ks.Pairwise fun j k => j.offset < k.offset) {p : PlacedToken × PlacedToken}
    (hp : p ∈ bracePairs ks) : p.1.offset < p.2.offset :=
  (nested_foldl h).ordered p hp

end CodeFolding
