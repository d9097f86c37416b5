import CodeFolding.Survey
import CodeFolding.Proofs.Survey.Braces
import Mathlib.Data.List.Basic
/-!
# Methods as pairs of braces with a header

The scanner keeps a running header, a stack of braces and the methods closed so far. None of it
depends on the way there: the header is what stands behind the last brace or semicolon, and the
methods are the pairs of braces whose header names one. Main statement: `methods_foldl`.
-/
namespace CodeFolding

/-- Whether a header ends at a token: at braces and semicolons that are code. -/
def PlacedToken.endsHeader (k : PlacedToken) : Bool :=
  k.isCode '{' || k.isCode '}' || k.isCode ';'

def HeaderText.read (h : HeaderText) (k : PlacedToken) : HeaderText :=
  match k.kind with
  | .newline | .blank | .blockComment => h.addBlank
  | .lineComment => h
  | .literal => h.addCode BraceState.literalStandIn k.endLine
  | .code => h.addCode k.text k.line

/-- The header that some tokens end in: what is behind the last of them at which a header ends. -/
def headerBehind (ks : List PlacedToken) : HeaderText :=
  ((ks.reverse.takeWhile fun k => !k.endsHeader).reverse).foldl HeaderText.read {}

def headerBefore (ks : List PlacedToken) (o : PlacedToken) : HeaderText :=
  headerBehind (ks.takeWhile fun k => k.offset < o.offset)

/-- The method whose body a pair of braces is, if the header in front of it names one. -/
def methodOf (ks : List PlacedToken) (p : PlacedToken × PlacedToken) : Option Method :=
  ((headerBefore ks p.1).method? p.1.line).map fun (name, headerLine) =>
    ⟨name, headerLine, p.1.line, p.2.line, p.1.offset, p.2.offset, []⟩

@[simp] theorem headerBehind_nil : headerBehind [] = {} := rfl

theorem headerBehind_append_singleton (ks : List PlacedToken) (k : PlacedToken) :
    headerBehind (ks ++ [k]) = if k.endsHeader then {} else (headerBehind ks).read k := by
  cases h : k.endsHeader <;> simp [headerBehind, h]

theorem headerBefore_append {ks more : List PlacedToken} {o : PlacedToken} (ho : o ∈ ks) :
    headerBefore (ks ++ more) o = headerBefore ks o := by
  rw [headerBefore, headerBefore]
  congr 1
  induction ks with
  | nil => simp at ho
  | cons j ks ih =>
    by_cases hj : j.offset < o.offset
    · have hmem : o ∈ ks := by
        rcases List.mem_cons.1 ho with rfl | h
        · omega
        · exact h
      simp [hj, ih hmem]
    · simp [hj]

theorem headerBefore_append_singleton {ks : List PlacedToken} {o : PlacedToken}
    (h : ∀ k ∈ ks, k.offset < o.offset) : headerBefore (ks ++ [o]) o = headerBehind ks := by
  rw [headerBefore, List.takeWhile_append_of_pos (by simpa using h)]
  simp

/-! ## The line a header begins on -/

namespace HeaderText

theorem line_addBlank (h : HeaderText) : h.addBlank.line = h.line := by
  unfold addBlank
  split <;> rfl

theorem line_read_eq (h : HeaderText) (k : PlacedToken) :
    (h.read k).line = match k.kind with
      | .literal => h.line <|> some k.endLine
      | .code => h.line <|> some k.line
      | _ => h.line := by
  cases hk : k.kind <;> simp [read, hk, addCode, line_addBlank]

theorem line_read {h : HeaderText} {k : PlacedToken} {n : Nat}
    (hn : (h.read k).line = some n) : h.line = some n ∨ n ≤ k.endLine := by
  have hor : ∀ line, line ≤ k.endLine → (h.line <|> some line) = some n →
      h.line = some n ∨ n ≤ k.endLine := by
    intro line hle hline
    rw [Option.orElse_eq_orElse, Option.orElse_eq_or, Option.or_eq_some_iff] at hline
    exact hline.imp_right fun ⟨_, hsome⟩ => Option.some.inj hsome ▸ hle
  rw [line_read_eq] at hn
  split at hn
  · exact hor _ (Nat.le_refl _) hn
  · exact hor _ (Nat.le_add_right _ _) hn
  · exact Or.inl hn

end HeaderText

theorem exists_le_endLine_of_line {ks : List PlacedToken} {n : Nat}
    (h : (headerBehind ks).line = some n) : ∃ k ∈ ks, n ≤ k.endLine := by
  induction ks using List.reverseRecOn with
  | nil => simp at h
  | append_singleton ks k ih =>
    rw [headerBehind_append_singleton] at h
    split at h
    · simp at h
    · rcases HeaderText.line_read h with h | hle
      · obtain ⟨j, hj, hle⟩ := ih h
        exact ⟨j, List.mem_append_left _ hj, hle⟩
      · exact ⟨k, by simp, hle⟩

/-! ## One step of the scanner -/

namespace BraceState

theorem read_open {s : BraceState} {k : PlacedToken} (h : k.isCode '{' = true) :
    s.read k = s.openBrace k.line k.offset := by
  obtain ⟨hk, ht⟩ := PlacedToken.isCode_iff.1 h
  simp [read, hk, ht]

theorem read_close {s : BraceState} {k : PlacedToken} (h : k.isCode '}' = true) :
    s.read k = s.closeBrace k.line k.offset := by
  obtain ⟨hk, ht⟩ := PlacedToken.isCode_iff.1 h
  simp [read, hk, ht]

theorem read_semicolon {s : BraceState} {k : PlacedToken} (h : k.isCode ';' = true) :
    s.read k = { s with header := {} } := by
  obtain ⟨hk, ht⟩ := PlacedToken.isCode_iff.1 h
  simp [read, hk, ht]

theorem read_other {s : BraceState} {k : PlacedToken} (h : k.endsHeader = false) :
    s.read k = { s with header := s.header.read k } := by
  simp only [PlacedToken.endsHeader, PlacedToken.isCode, Bool.or_eq_false_iff,
    Bool.and_eq_false_imp, beq_iff_eq, beq_eq_false_iff_ne] at h
  obtain ⟨⟨ho, hc⟩, hs⟩ := h
  cases hk : k.kind with
  | code =>
    have ho := ho hk
    have hc := hc hk
    have hs := hs hk
    simp only [read, HeaderText.read, hk]
  | _ => simp only [read, HeaderText.read, hk]

end BraceState

/-! ## The whole run -/

/-- What the scanner keeps of an opening brace that waits. -/
def openBraceOf (ks : List PlacedToken) (o : PlacedToken) : OpenBrace :=
  ⟨(headerBefore ks o).method? o.line, o.line, o.offset⟩

/-- The scanner's state is what the tokens read make it: their last header, the braces that wait,
and the methods among the pairs of braces. -/
structure BraceState.Follows (s : BraceState) (m : BraceStack) (ks : List PlacedToken) : Prop where
  header_eq : s.header = headerBehind ks
  braces_eq : s.braces = m.waiting.map (openBraceOf ks)
  methods_eq : s.methods = m.pairs.filterMap (methodOf ks)

theorem map_openBraceOf_append {ks waiting : List PlacedToken} (h : ∀ o ∈ waiting, o ∈ ks)
    (more : List PlacedToken) :
    waiting.map (openBraceOf (ks ++ more)) = waiting.map (openBraceOf ks) := by
  refine List.map_congr_left fun o ho => ?_
  rw [openBraceOf, openBraceOf, headerBefore_append (h o ho)]

theorem filterMap_methodOf_append {ks : List PlacedToken}
    {pairs : List (PlacedToken × PlacedToken)} (h : ∀ p ∈ pairs, p.1 ∈ ks)
    (more : List PlacedToken) :
    pairs.filterMap (methodOf (ks ++ more)) = pairs.filterMap (methodOf ks) := by
  refine List.filterMap_congr fun p hp => ?_
  rw [methodOf, methodOf, headerBefore_append (h p hp)]

/-- **One more token keeps the scanner at what the tokens read make it.** -/
theorem BraceState.Follows.read {s : BraceState} {m : BraceStack} {ks : List PlacedToken}
    {k : PlacedToken} (h : s.Follows m ks) (hwait : ∀ o ∈ m.waiting, o ∈ ks)
    (hpairs : ∀ p ∈ m.pairs, p.1 ∈ ks) (hk : ∀ j ∈ ks, j.offset < k.offset) :
    (s.read k).Follows (m.read k) (ks ++ [k]) := by
  obtain ⟨hheader, hbraces, hmethods⟩ := h
  have hmap := map_openBraceOf_append hwait [k]
  have hfilter := filterMap_methodOf_append hpairs [k]
  cases hend : k.endsHeader with
  | false =>
    -- neither the stack nor the methods change
    have hcode := hend
    simp only [PlacedToken.endsHeader, Bool.or_eq_false_iff] at hcode
    rw [read_other hend, BraceStack.read_other hcode.1.1 hcode.1.2]
    refine ⟨?_, ?_, ?_⟩
    · simp [headerBehind_append_singleton, hend, hheader]
    · exact hbraces.trans hmap.symm
    · exact hmethods.trans hfilter.symm
  | true =>
    have hfresh : headerBehind (ks ++ [k]) = {} := by simp [headerBehind_append_singleton, hend]
    by_cases ho : k.isCode '{' = true
    · rw [read_open ho, BraceStack.read_open ho]
      refine ⟨hfresh.symm, ?_, hmethods.trans hfilter.symm⟩
      rw [List.map_cons, hmap, openBraceOf, headerBefore_append_singleton hk, ← hheader,
        ← hbraces]
      rfl
    · by_cases hc : k.isCode '}' = true
      · rw [read_close hc]
        cases hw : m.waiting with
        | nil =>
          have hnil : s.braces = [] := by rw [hbraces, hw]; rfl
          rw [BraceStack.read_close_of_nil hc hw, closeBrace, hnil]
          exact ⟨hfresh.symm, by rw [hw]; rfl, hmethods.trans hfilter.symm⟩
        | cons o outer =>
          rw [hw, List.map_cons] at hbraces hmap
          obtain ⟨hfirst, hrest⟩ := List.cons.inj hmap
          rw [BraceStack.read_close hc hw, closeBrace, hbraces]
          refine ⟨hfresh.symm, hrest.symm, ?_⟩
          rw [List.filterMap_cons, hfilter, ← hmethods, methodOf,
            headerBefore_append (hwait o (by simp [hw])), openBraceOf]
          cases (headerBefore ks o).method? o.line with
          | none => rfl
          | some found => rfl
      · have hs : k.isCode ';' = true := by
          simpa [PlacedToken.endsHeader, ho, hc] using hend
        rw [read_semicolon hs, BraceStack.read_other (by simpa using ho) (by simpa using hc)]
        exact ⟨hfresh.symm, hbraces.trans hmap.symm, hmethods.trans hfilter.symm⟩

theorem follows_foldl {ks : List PlacedToken} (h : ks.Pairwise fun j k => j.offset < k.offset) :
    (ks.foldl BraceState.read {}).Follows (ks.foldl BraceStack.read {}) ks := by
  induction ks using List.reverseRecOn with
  | nil => exact ⟨rfl, rfl, rfl⟩
  | append_singleton ks k ih =>
    obtain ⟨hks, -, hlt⟩ := List.pairwise_append.1 h
    obtain ⟨hwait, hpairs⟩ := waits_foldl ks
    rw [List.foldl_append, List.foldl_append]
    exact (ih hks).read hwait.mem (fun p hp => (hpairs p hp).mem.1) fun j hj => hlt j hj k (by simp)

/-- **The methods the scanner closes are the pairs of braces whose header names one.** -/
theorem methods_foldl {ks : List PlacedToken} (h : ks.Pairwise fun j k => j.offset < k.offset) :
    (ks.foldl BraceState.read {}).methods = (bracePairs ks).filterMap (methodOf ks) :=
  (follows_foldl h).methods_eq

end CodeFolding
