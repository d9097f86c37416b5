import CodeFolding.Proofs.Header.Declaration
/-!
# Declarations with words in front of their name

In `public static int size(List<T> items) throws Failure` plain words stand in front of the name.
The words that make a header something else than the header of a method are searched for in front
of the parameters, and the name is among the words there. So such a header names its method unless
the name itself is one of them. Main statement: `method?_of_isQualified`.
-/
namespace CodeFolding.Header

open Text

namespace Declaration

/-- The declaration of a method with plain words in front of its name. -/
structure IsQualified (d : Declaration) : Prop where
  isModifiers : IsModifiers d.before
  isMethodName : IsMethodName d.name
  isBlank : ∀ c ∈ d.clause, isBlank c = true
  isBalanced : IsBalanced '(' ')' d.params
  no_arrow_params : ¬ ['-', '>'] <:+: d.params
  isSignatureEnd : IsSignatureEnd d.tail
  no_arrow_tail : ¬ ['-', '>'] <:+: d.tail

def trimmed (d : Declaration) : Declaration :=
  { d with before := trimStart d.before, tail := trimEnd d.tail }

end Declaration

/-! ## Arrows -/

theorem infix_pair_append_cons {a b c : Char} {s t : Text} (ha : c ≠ a) (hb : c ≠ b)
    (h : [a, b] <:+: s ++ c :: t) : [a, b] <:+: s ∨ [a, b] <:+: t := by
  -- the pair begins at the head or behind it; it does not reach over `c`, which is neither of both
  induction s with
  | nil =>
    rcases List.infix_cons_iff.1 h with hpair | hpair
    · exact absurd (List.cons_prefix_cons.1 hpair).1.symm ha
    · exact Or.inr hpair
  | cons x s ih =>
    rcases List.infix_cons_iff.1 h with hpair | hpair
    · obtain ⟨rfl, hsecond⟩ := List.cons_prefix_cons.1 hpair
      cases s with
      | nil => exact absurd (List.cons_prefix_cons.1 hsecond).1.symm hb
      | cons y s =>
        obtain ⟨rfl, -⟩ := List.cons_prefix_cons.1 hsecond
        exact Or.inl (List.prefix_append [a, b] s).isInfix
    · exact (ih hpair).imp_left List.infix_cons

/-! ## The end of a signature -/

theorem IsSignatureEnd.firstWord_not_mem {tail : Text} (h : IsSignatureEnd tail) :
    firstWord (trim tail) ∉ functionWords := by
  -- of two prefixes of one text one is a prefix of the other
  have hapart : ∀ sign ∈ signatureEnds, ∀ w ∈ functionWords, ¬ sign <+: w ∧ ¬ w <+: sign := by
    decide
  intro hmem
  rcases h with hnil | ⟨sign, hsign, hprefix⟩
  · rw [hnil] at hmem
    exact absurd hmem (by decide)
  · obtain ⟨hne, hne'⟩ := hapart sign hsign _ hmem
    exact (List.prefix_or_prefix_of_prefix hprefix (List.takeWhile_prefix _)).elim hne hne'

/-! ## The header -/

namespace Declaration.IsQualified

variable {d : Declaration}

theorem words_front (h : d.IsQualified) :
    words d.trimmed.front = words d.before ++ [d.name] := by
  have hwords := h.isModifiers.words_append h.isMethodName.toIsName
    (isWordChar_of_head_of_blank h.isBlank)
  rwa [words_of_blank h.isBlank] at hwords

theorem not_mem_front (h : d.IsQualified) {c : Char} (hword : isWordChar c = false)
    (hblank : CodeFolding.isBlank c = false) : c ∉ d.trimmed.front :=
  h.isModifiers.not_mem_front h.isMethodName.toIsName hword hblank fun hmem =>
    absurd (h.isBlank c hmem) (by simp [hblank])

theorem dropAnnotations_trim (h : d.IsQualified) :
    dropAnnotations (trim d.text) = d.trimmed.text := by
  have hdrop := h.isModifiers.dropAnnotations_trim h.isMethodName.toIsName d.clause
    (d.params ++ ')' :: d.tail)
  rwa [trimEnd_append_cons (by decide)] at hdrop

theorem not_arrow (h : d.IsQualified) : ¬ ['-', '>'] <:+: d.trimmed.text := by
  intro harrow
  rcases infix_pair_append_cons (by decide) (by decide) harrow with hfront | hrest
  · exact h.not_mem_front (by decide) (by decide) (hfront.subset List.mem_cons_self)
  · rcases infix_pair_append_cons (by decide) (by decide) hrest with hparams | hend
    · exact h.no_arrow_params hparams
    · exact h.no_arrow_tail (hend.trans (trimEnd_prefix_self d.tail).isInfix)

/-- It is written as a declaration is, unless its name is the word of a type. -/
theorem isRead (h : d.IsQualified) (htype : d.name ∉ typeWords) : d.trimmed.IsRead where
  isMethodName := h.isMethodName
  isClause := .blank d.clause h.isBlank
  isBalanced := h.isBalanced
  isSignatureEnd := by
    have hend := h.isSignatureEnd
    rwa [IsSignatureEnd, ← trim_trimEnd] at hend
  before_ends := fun c hc => isWordChar_of_isBlank (h.isModifiers.getLast_trimStart c hc)
  not_member := fun hdot => by
    have hmem : '.' ∈ trimStart d.before :=
      (trimEnd_prefix_self _).subset (List.mem_of_getLast? hdot)
    exact h.isModifiers.not_mem (by decide) (by decide) (IsModifiers.mem_of_mem_trimStart hmem)
  not_new := fun hnew => by
    refine (h.isModifiers.plain "new".toList ?_).1 (by decide)
    rwa [← words_trimStart]
  not_paren := h.not_mem_front (by decide) (by decide)
  not_assigned := h.not_mem_front (by decide) (by decide)
  not_type := fun w hw => by
    rw [h.words_front, List.mem_append, List.mem_singleton] at hw
    rcases hw with hw | rfl
    · exact (h.isModifiers.plain w hw).2.1
    · exact htype
  not_arrow := h.not_arrow

theorem method?_of_typeWord (h : d.IsQualified) (htype : d.name ∈ typeWords) :
    method? d.text = none := by
  have hhead := isWordChar_of_head_of_blank h.isBlank
  have hparen : '(' ∉ d.clause := fun hmem => absurd (h.isBlank _ hmem) (by decide)
  exact (h.isModifiers.method?_append h.isMethodName.toIsName hhead hparen _).trans
    (if_pos (by simp [htype]))

theorem method?_of_functionWord (h : d.IsQualified) (hfunction : d.name ∈ functionWords) :
    method? d.text =
      if firstWord (trim d.tail) = [] then none else some (firstWord (trim d.tail)) := by
  have hhead := isWordChar_of_head_of_blank h.isBlank
  have hparen : '(' ∉ d.clause := fun hmem => absurd (h.isBlank _ hmem) (by decide)
  have hclause : words d.clause = [] := words_of_blank h.isBlank
  refine (h.isModifiers.method?_of_functionWord hfunction hhead hparen (by simp [hclause]) _).trans ?_
  rw [hclause, trimEnd_append_cons (by decide), introducedName?_of_isBalanced h.isBalanced,
    trimStart_trimEnd]

theorem method?_of_plain (h : d.IsQualified) (htype : d.name ∉ typeWords)
    (hfunction : d.name ∉ functionWords) : method? d.text = some d.name := by
  have hplain : ∀ w ∈ words ((dropAnnotations (trim d.text)).takeWhile (· != '(')),
      w ∉ functionWords := by
    intro w hw
    rw [h.dropAnnotations_trim, text, (cut_at_paren (h.isRead htype).not_paren _).1,
      h.words_front, List.mem_append, List.mem_singleton] at hw
    rcases hw with hw | rfl
    · exact (h.isModifiers.plain w hw).2.2
    · exact hfunction
  exact (method?_eq_some_iff hplain).2
    ⟨d.trimmed, h.isRead htype, h.dropAnnotations_trim.symm, rfl⟩

end Declaration.IsQualified

/-- **The declaration of a method with plain words in front of its name names the method, unless
the name is a word that introduces types or functions.** With the former no name is found. With the
latter the parameters are taken for those of a receiver, and the name is looked for behind them. -/
theorem method?_of_isQualified {d : Declaration} (h : d.IsQualified) :
    (method? d.text = some d.name ↔ d.name ∉ typeWords ∧ d.name ∉ functionWords) ∧
      (d.name ∈ typeWords → method? d.text = none) ∧
      (d.name ∈ functionWords → method? d.text =
        if firstWord (trim d.tail) = [] then none else some (firstWord (trim d.tail))) := by
  refine ⟨⟨fun hname => ⟨fun hmem => ?_, fun hmem => ?_⟩, fun hplain => ?_⟩,
    h.method?_of_typeWord, h.method?_of_functionWord⟩
  · rw [h.method?_of_typeWord hmem] at hname
    cases hname
  · rw [h.method?_of_functionWord hmem] at hname
    split at hname
    · cases hname
    · refine h.isSignatureEnd.firstWord_not_mem ?_
      rwa [Option.some.inj hname]
  · exact h.method?_of_plain hplain.1 hplain.2

/-- Parameters, type parameters and a clause of a signature do not hide the name. -/
theorem method?_of_isQualified_size :
    let d : Declaration :=
      ⟨"public static ".toList, "size".toList, [], "List<T> items".toList, " throws Failure".toList⟩
    d.IsQualified ∧ method? d.text = some "size".toList := by
  intro d
  have hd : d.IsQualified :=
    { isModifiers := by decide +kernel
      isMethodName := by decide +kernel
      isBlank := fun c hc => absurd hc List.not_mem_nil
      isBalanced := isBalanced_of_not_mem (by decide) (by decide)
      no_arrow_params := by decide
      isSignatureEnd := by decide
      no_arrow_tail := by decide }
  exact ⟨hd, (method?_of_isQualified hd).1.2 (by decide)⟩

/-- The name `fun` makes a word behind the parameters the name of the method. -/
theorem method?_of_name_fun :
    ∃ d : Declaration, d.IsQualified ∧ d.text = "void fun(int x) throws Failure".toList ∧
      d.name = "fun".toList ∧ method? d.text = some "throws".toList := by
  refine ⟨⟨"void ".toList, "fun".toList, [], "int x".toList, " throws Failure".toList⟩, ?_, rfl, rfl,
    by decide +kernel⟩
  exact
    { isModifiers := by decide +kernel
      isMethodName := by decide +kernel
      isBlank := fun c hc => absurd hc List.not_mem_nil
      isBalanced := isBalanced_of_not_mem (by decide) (by decide)
      no_arrow_params := by decide
      isSignatureEnd := by decide
      no_arrow_tail := by decide }

end CodeFolding.Header
