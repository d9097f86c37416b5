import CodeFolding.Survey
import CodeFolding.Proofs.Survey.Headers
import CodeFolding.Proofs.Token.Place
/-!
# Which methods a file has

The methods of a file in a language with braces are the pairs of braces whose header names one, by
ascending offset of the opening brace. Main statements: what a method is made from
(`exists_pair_of_mem_methods`) and which methods there are, in which order (`methods_eq_pairs`).
-/
namespace CodeFolding

/-- The offsets of the braces of a method. -/
def Method.span (m : Method) : Nat × Nat := (m.openOffset, m.closeOffset)

/-- The name that the header in front of a pair of braces declares, if it declares one, with the
offsets of the pair. -/
def namedPair (ks : List PlacedToken) (p : PlacedToken × PlacedToken) :
    Option (Text × Nat × Nat) :=
  (Header.method? (headerBefore ks p.1).reversed.reverse).map fun name => (name, offsets p)

/-- The method `m` is the pair of braces `p` among the tokens `ks` of its file. -/
structure Method.IsMadeOf (m : Method) (ks : List PlacedToken)
    (p : PlacedToken × PlacedToken) : Prop where
  partners : Partners ks p
  name_eq : Header.method? (headerBefore ks p.1).reversed.reverse = some m.name
  headerLine_eq : m.headerLine = (headerBefore ks p.1).line.getD p.1.line
  openLine_eq : m.openLine = p.1.line
  closeLine_eq : m.closeLine = p.2.line
  span_eq : m.span = offsets p
  comments_eq : m.comments = ((lineComments ks).filter fun c => m.encloses c.1).map Prod.snd

variable {ks : List PlacedToken} {p : PlacedToken × PlacedToken} {m : Method}

theorem span_of_methodOf (h : methodOf ks p = some m) : m.span = offsets p := by
  obtain ⟨_, -, rfl⟩ := Option.map_eq_some_iff.1 h
  rfl

theorem map_methodOf (ks : List PlacedToken) (p : PlacedToken × PlacedToken) :
    (methodOf ks p).map (fun m => (m.name, m.span)) = namedPair ks p := by
  simp [methodOf, namedPair, HeaderText.method?, Method.span, offsets, Function.comp_def]

theorem isMadeOf_withComments (hp : Partners ks p) (h : methodOf ks p = some m) :
    (m.withComments (lineComments ks)).IsMadeOf ks p := by
  obtain ⟨⟨name, headerLine⟩, hname, rfl⟩ := Option.map_eq_some_iff.1 h
  obtain ⟨n, hn, hpair⟩ := Option.map_eq_some_iff.1 hname
  obtain ⟨rfl, rfl⟩ := Prod.mk.inj hpair
  exact ⟨hp, hn, rfl, rfl, rfl, rfl, rfl⟩

theorem Method.IsMadeOf.mem_comments_iff (h : m.IsMadeOf ks p) {c : LineComment} :
    c ∈ m.comments ↔ ∃ k ∈ ks, k.kind = .lineComment ∧ m.openOffset < k.offset ∧
      k.offset < m.closeOffset ∧ c = ⟨k.line, Text.dropReturns k.text⟩ := by
  have hmem : ∀ o, (o, c) ∈ lineComments ks ↔ ∃ k ∈ ks, k.kind = .lineComment ∧ k.offset = o ∧
      c = ⟨k.line, Text.dropReturns k.text⟩ := by
    intro o
    rw [lineComments, List.mem_filterMap]
    refine exists_congr fun k => and_congr_right fun _ => ?_
    by_cases hk : k.kind = .lineComment <;> simp [PlacedToken.lineComment?, hk, @eq_comm _ c]
  rw [h.comments_eq, List.mem_map]
  constructor
  · rintro ⟨⟨o, _⟩, hfilter, rfl⟩
    obtain ⟨hc, henc⟩ := List.mem_filter.1 hfilter
    obtain ⟨k, hk, hkind, rfl, hcomment⟩ := (hmem o).1 hc
    have henc : m.openOffset < k.offset ∧ k.offset < m.closeOffset := by
      simpa [encloses] using henc
    exact ⟨k, hk, hkind, henc.1, henc.2, hcomment⟩
  · rintro ⟨k, hk, hkind, ho, hclose, hcomment⟩
    have hc : (k.offset, c) ∈ lineComments ks := (hmem k.offset).2 ⟨k, hk, hkind, rfl, hcomment⟩
    refine ⟨(k.offset, c), List.mem_filter.2 ⟨hc, ?_⟩, rfl⟩
    simp [encloses, ho, hclose]

namespace Survey

variable {lang : Language} {t : Text}

theorem methods_ofText (t : Text) :
    (Survey.ofText .braces t).methods =
      (((bracePairs (Language.braces.placed t)).filterMap
        (methodOf (Language.braces.placed t))).mergeSort
          (fun m n => m.openOffset ≤ n.openOffset)).map
        (Method.withComments (lineComments (Language.braces.placed t))) := by
  rw [← methods_foldl (Language.pairwise_offset_placed .braces t)]
  rfl

/-- **Every method is a pair of braces.** -/
theorem exists_pair_of_mem_methods (h : m ∈ (Survey.ofText lang t).methods) :
    lang = .braces ∧ ∃ p, m.IsMadeOf (lang.placed t) p := by
  by_cases hl : lang = .braces
  · subst hl
    rw [methods_ofText, List.mem_map] at h
    obtain ⟨n, hn, rfl⟩ := h
    rw [List.mem_mergeSort, List.mem_filterMap] at hn
    obtain ⟨p, hp, hn⟩ := hn
    exact ⟨rfl, p, isMadeOf_withComments (mem_bracePairs_iff.1 hp) hn⟩
  · simp [ofText, Language.methodFrames, hl] at h

theorem pairwise_apart_methods (t : Text) :
    (Survey.ofText .braces t).methods.Pairwise fun m n => Apart m.span n.span := by
  have hpairs := pairwise_apart_bracePairs (Language.pairwise_offset_placed .braces t)
  rw [methods_ofText, List.pairwise_map, (List.mergeSort_perm _ _).pairwise_iff Apart.symm]
  refine hpairs.filterMap _ fun p q hpq m hm n hn => ?_
  have hm := span_of_methodOf hm
  have hn := span_of_methodOf hn
  exact hm ▸ hn ▸ hpq

theorem open_lt_close {t : Text} (h : m ∈ (Survey.ofText .braces t).methods) :
    m.openOffset < m.closeOffset := by
  obtain ⟨-, p, hp⟩ := exists_pair_of_mem_methods h
  have hlt := offset_lt_of_mem_bracePairs (Language.pairwise_offset_placed .braces t)
    (mem_bracePairs_iff.2 hp.partners)
  obtain ⟨ho, hc⟩ := Prod.mk.inj hp.span_eq
  omega

theorem pairwise_openOffset_methods (t : Text) :
    (Survey.ofText .braces t).methods.Pairwise fun m n => m.openOffset < n.openOffset := by
  have hle : (Survey.ofText .braces t).methods.Pairwise fun m n =>
      m.openOffset ≤ n.openOffset := by
    rw [methods_ofText, List.pairwise_map]
    refine (List.pairwise_mergeSort (fun k m n hkm hmn => ?_) (fun m n => ?_) _).imp fun h => ?_
    · simp only [decide_eq_true_eq] at hkm hmn ⊢
      exact Nat.le_trans hkm hmn
    · simpa using Nat.le_total m.openOffset n.openOffset
    · simpa [Method.withComments] using h
  refine (hle.and (pairwise_apart_methods t)).imp_of_mem fun hm hn h => ?_
  have := h.2.fst_ne (open_lt_close hm) (open_lt_close hn)
  simp only [Method.span] at this
  omega

theorem methods_eq_of_perm {ms : List Method}
    (hperm : (((bracePairs (Language.braces.placed t)).filterMap
      (methodOf (Language.braces.placed t))).map
        (Method.withComments (lineComments (Language.braces.placed t)))).Perm ms)
    (hsorted : ms.Pairwise fun m n => m.openOffset < n.openOffset) :
    (Survey.ofText .braces t).methods = ms := by
  have hmethods : (Survey.ofText .braces t).methods.Perm ms := by
    rw [methods_ofText]
    exact ((List.mergeSort_perm _ _).map _).trans hperm
  refine hmethods.eq_of_pairwise (fun m n _ _ hmn hnm => ?_) (pairwise_openOffset_methods t) hsorted
  exact absurd hnm (Nat.lt_asymm hmn)

theorem map_methods_perm (t : Text) :
    ((Survey.ofText .braces t).methods.map fun m => (m.name, m.span)).Perm
      ((bracePairs (Language.braces.placed t)).filterMap
        (namedPair (Language.braces.placed t))) := by
  have hpairs : (bracePairs (Language.braces.placed t)).filterMap
        (namedPair (Language.braces.placed t)) =
      ((bracePairs (Language.braces.placed t)).filterMap
        (methodOf (Language.braces.placed t))).map fun m => (m.name, m.span) := by
    rw [List.map_filterMap]
    exact List.filterMap_congr fun p _ => (map_methodOf _ p).symm
  rw [hpairs, methods_ofText, List.map_map]
  exact (List.mergeSort_perm _ _).map _

theorem at?_span {t : Text} (h : m ∈ (Survey.ofText lang t).methods) :
    Text.at? t m.openOffset = some '{' ∧ Text.at? t m.closeOffset = some '}' := by
  obtain ⟨-, p, hp⟩ := exists_pair_of_mem_methods h
  obtain ⟨ho, hc⟩ := Prod.mk.inj hp.span_eq
  obtain ⟨hmo, hmc⟩ := hp.partners.mem
  obtain ⟨hopen, hclose, -⟩ := hp.partners
  rw [ho, hc, Language.at?_of_mem_placed hmo, Language.at?_of_mem_placed hmc,
    (PlacedToken.isCode_iff.1 hopen).2, (PlacedToken.isCode_iff.1 hclose).2]
  exact ⟨rfl, rfl⟩

/-- **The methods of a file in a language with braces are exactly the pairs of braces whose header
names one, by ascending offset.** Pairs are matched with a stack, or, in other words, are partners;
the braces of a method stand in the text, and two methods are disjoint or nested. -/
theorem methods_eq_pairs (t : Text) (ext : String) (h : Language.ofExtension ext = .braces) :
    let methods := (Survey.ofText (Language.ofExtension ext) t).methods
    let ks := (Language.ofExtension ext).placed t
    methods.Pairwise (fun m n => m.openOffset < n.openOffset) ∧
      (methods.map fun m => (m.name, m.span)).Perm ((bracePairs ks).filterMap (namedPair ks)) ∧
      (∀ p, p ∈ bracePairs ks ↔ Partners ks p) ∧
      (∀ m ∈ methods, Text.at? t m.openOffset = some '{' ∧
        Text.at? t m.closeOffset = some '}' ∧ m.openOffset < m.closeOffset) ∧
      methods.Pairwise fun m n => Apart m.span n.span := by
  rw [h]
  refine ⟨pairwise_openOffset_methods t, map_methods_perm t, fun p => mem_bracePairs_iff, ?_,
    pairwise_apart_methods t⟩
  intro m hm
  obtain ⟨ho, hc⟩ := at?_span hm
  exact ⟨ho, hc, open_lt_close hm⟩

/-- A brace in a comment and one too many do not change the pairs. -/
theorem methods_eq_pairs_java :
    Language.ofExtension "java" = .braces ∧
      ((Survey.ofText (Language.ofExtension "java")
        "int f() \x7b /* \x7d */ \x7b \x7d \x7d \x7d".toList).methods.map fun m =>
          (m.name, m.span)).Perm [("f".toList, 8, 22)] := by
  have hjava : Language.ofExtension "java" = .braces := by decide
  have hpairs : (bracePairs (Language.braces.placed
        "int f() \x7b /* \x7d */ \x7b \x7d \x7d \x7d".toList)).filterMap
      (namedPair (Language.braces.placed "int f() \x7b /* \x7d */ \x7b \x7d \x7d \x7d".toList)) =
      [("f".toList, 8, 22)] := by decide +kernel
  have h := (methods_eq_pairs "int f() \x7b /* \x7d */ \x7b \x7d \x7d \x7d".toList "java" hjava).2.1
  rw [hjava, hpairs] at h
  exact ⟨hjava, hjava ▸ h⟩

end Survey

end CodeFolding
