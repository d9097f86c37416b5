import CodeFolding.Proofs.Header.Front
/-!
# Headers that read as declarations

A header without a word that introduces functions names a method if it is written as a declaration
is: a name in front of parameters in parentheses, perhaps with a type-parameter clause between
them, and behind the parameters nothing or the end of a signature. Main statement: such a header
names a method just if it has these parts, and then the name is among them
(`method?_eq_some_iff`).
-/
namespace CodeFolding.Header

open Text

/-! ## Parts of a declaration -/

/-- What may be the name of a method without a word that introduces it. -/
structure IsMethodName (name : Text) : Prop extends IsName name where
  not_control : name ∉ controlWords
  not_digit : ∀ c ∈ name.head?, c.isDigit = false

instance (name : Text) : Decidable (IsMethodName name) :=
  decidable_of_iff (IsName name ∧ controlWords.contains name = false ∧
      (name.head?.all fun c => !c.isDigit) = true) <| by
    rw [List.contains_eq_mem, decide_eq_false_iff_not, Option.all_eq_true]
    simp only [Bool.not_eq_true']
    exact ⟨fun h => ⟨h.1, h.2.1, h.2.2⟩, fun h => ⟨h.toIsName, h.not_control, h.not_digit⟩⟩

/-- What may stand between a name and its parameters: blanks, and a type-parameter clause. -/
abbrev IsClause : Text → Prop := IsGap (IsBalanced '<' '>')

/-- What may stand behind the parameters, up to the body. -/
def IsSignatureEnd (tail : Text) : Prop :=
  trim tail = [] ∨ ∃ sign ∈ signatureEnds, sign <+: trim tail

instance (tail : Text) : Decidable (IsSignatureEnd tail) :=
  inferInstanceAs (Decidable (trim tail = [] ∨ ∃ sign ∈ signatureEnds, sign <+: trim tail))

/-- The parts of a header that is written as a declaration is. -/
structure Declaration where
  before : Text
  name : Text
  clause : Text
  params : Text
  tail : Text

namespace Declaration

/-- What stands in front of the parameters. -/
def front (d : Declaration) : Text := d.before ++ d.name ++ d.clause

def text (d : Declaration) : Text := d.front ++ '(' :: (d.params ++ ')' :: d.tail)

/-- The parts belong to a declaration, and not to a call, an assignment, a lambda or a type. -/
structure IsRead (d : Declaration) : Prop where
  isMethodName : IsMethodName d.name
  isClause : IsClause d.clause
  isBalanced : IsBalanced '(' ')' d.params
  isSignatureEnd : IsSignatureEnd d.tail
  /-- The name is a whole word. -/
  before_ends : ∀ c ∈ d.before.getLast?, isWordChar c = false
  not_member : (trimEnd d.before).getLast? ≠ some '.'
  not_new : "new".toList ∉ words d.before
  not_paren : '(' ∉ d.front
  not_assigned : '=' ∉ d.front
  not_type : ∀ w ∈ words d.front, w ∉ typeWords
  not_arrow : ¬ ['-', '>'] <:+: d.text

end Declaration

/-! ## Type-parameter clauses -/

theorem dropTypeParameters_of_not {t : Text} (h : t.getLast? ≠ some '>') :
    dropTypeParameters t = t := by
  rw [dropTypeParameters, if_neg]
  intro hclosing
  obtain ⟨rest, hrest⟩ := List.isPrefixOf_iff_prefix.1 hclosing
  rw [← List.head?_reverse, ← hrest] at h
  exact h rfl

theorem dropTypeParameters_append {s inner : Text} (h : IsBalanced '<' '>' inner) :
    dropTypeParameters (s ++ '<' :: (inner ++ ['>'])) = trimEnd s := by
  have hreverse : (s ++ '<' :: (inner ++ ['>'])).reverse =
      '>' :: (inner.reverse ++ '<' :: s.reverse) := by simp
  have hbehind : behindClosing '>' '<' 0 ('>' :: (inner.reverse ++ '<' :: s.reverse)) =
      some s.reverse :=
    (behindClosing_eq_some_iff (by decide)).2 ⟨inner.reverse, rfl, IsBalanced.reverse h⟩
  have hclosing : ['>'].isPrefixOf ('>' :: (inner.reverse ++ '<' :: s.reverse)) = true :=
    List.isPrefixOf_iff_prefix.2 (List.prefix_append ['>'] _)
  rw [dropTypeParameters, hreverse, if_pos hclosing, hbehind]
  exact congrArg trimEnd (List.reverse_reverse s)

theorem dropTypeParameters_cases (t : Text) :
    dropTypeParameters t = t ∨
      ∃ s inner, t = s ++ '<' :: (inner ++ ['>']) ∧ IsBalanced '<' '>' inner ∧
        dropTypeParameters t = trimEnd s := by
  unfold dropTypeParameters
  split
  · next hclosing =>
    obtain ⟨r, hr⟩ := List.isPrefixOf_iff_prefix.1 hclosing
    rw [List.singleton_append] at hr
    cases hbehind : behindClosing '>' '<' 0 t.reverse with
    | none => exact Or.inl rfl
    | some front =>
      rw [← hr] at hbehind
      have hinside : behindClosing '>' '<' (0 + 1) r = some front := hbehind
      obtain ⟨inner, rfl, hinner⟩ := (behindClosing_eq_some_iff (by decide)).1 hinside
      refine Or.inr ⟨front.reverse, inner.reverse, ?_, IsBalanced.reverse hinner, rfl⟩
      rw [← List.reverse_reverse t, ← hr]
      simp
  · exact Or.inl rfl

/-- **Behind a word, what may stand in front of parameters is cut off.** -/
theorem dropTypeParameters_of_isClause {s clause : Text} {c : Char} (hc : s.getLast? = some c)
    (hword : isWordChar c = true) (h : IsClause clause) :
    dropTypeParameters (trimEnd (s ++ clause)) = s := by
  obtain ⟨s, rfl⟩ := List.getLast?_eq_some_iff.1 hc
  have hblank := isBlank_eq_false_of_isWordChar hword
  have hcut : ∀ gap : Text, (∀ c ∈ gap, isBlank c = true) → trimEnd (s ++ [c] ++ gap) = s ++ [c] :=
    fun gap hgap => by rw [trimEnd_append_of_blank hgap, trimEnd_append_of_getLast hblank]
  cases h with
  | blank _ hgap =>
    rw [hcut clause hgap]
    apply dropTypeParameters_of_not
    rw [hc]
    rintro ⟨⟩
    exact absurd hword (by decide)
  | brackets gap inner gap' hgap hinner hgap' =>
    have hend : trimEnd (s ++ [c] ++ (gap ++ '<' :: (inner ++ '>' :: gap'))) =
        (s ++ [c] ++ gap) ++ '<' :: (inner ++ ['>']) := by
      have hsplit : s ++ [c] ++ (gap ++ '<' :: (inner ++ '>' :: gap')) =
          (s ++ [c] ++ gap ++ '<' :: inner) ++ '>' :: gap' := by simp
      have hgone : trimEnd gap' = [] := trimEnd_append_of_blank hgap' []
      rw [hsplit, trimEnd_append_cons (by decide), hgone]
      simp
    rw [hend, dropTypeParameters_append hinner, hcut gap hgap]

/-- **What is cut off in front of parameters is what may stand there.** -/
theorem exists_isClause (t : Text) :
    ∃ clause, IsClause clause ∧ t = dropTypeParameters (trimEnd t) ++ clause := by
  obtain ⟨trail, htrail, ht⟩ := exists_eq_trimEnd_append t
  rcases dropTypeParameters_cases (trimEnd t) with hsame | ⟨s, inner, hs, hinner, hcut⟩
  · rw [hsame]
    exact ⟨trail, .blank trail htrail, ht⟩
  · obtain ⟨gap, hgap, hsgap⟩ := exists_eq_trimEnd_append s
    refine ⟨_, .brackets gap inner trail hgap hinner htrail, ?_⟩
    rw [hcut, ← List.append_assoc, ← hsgap]
    conv_lhs => rw [ht, hs]
    simp

/-! ## Names -/

theorem isSignatureEnd_iff {tail : Text} :
    ((trim tail).isEmpty || signatureEnds.any (·.isPrefixOf (trim tail))) = true ↔
      IsSignatureEnd tail := by
  rw [Bool.or_eq_true, List.isEmpty_iff, List.any_eq_true, IsSignatureEnd]
  simp only [List.isPrefixOf_iff_prefix]

theorem isMethodName_lastWord_iff {t : Text} :
    ((lastWord t).isEmpty || controlWords.contains (lastWord t) ||
      (lastWord t).head?.any Char.isDigit) = true ↔ ¬ IsMethodName (lastWord t) := by
  rw [← Bool.not_eq_false, not_iff_not, Bool.or_eq_false_iff, Bool.or_eq_false_iff]
  constructor
  · rintro ⟨⟨hempty, hcontrol⟩, hdigit⟩
    refine ⟨⟨?_, fun c hc => mem_lastWord hc⟩, ?_, ?_⟩
    · exact fun hnil => by simp [hnil] at hempty
    · exact fun hmem => by simp [hmem] at hcontrol
    · exact fun c hc => by simpa [Option.mem_def.1 hc] using hdigit
  · rintro ⟨⟨hne, -⟩, hcontrol, hdigit⟩
    refine ⟨⟨by simpa using hne, by simpa using hcontrol⟩, ?_⟩
    cases hhead : (lastWord t).head? with
    | none => rfl
    | some c => exact hdigit c hhead

theorem declaredName?_eq_some_iff {front rest name : Text} :
    declaredName? front ('(' :: rest) = some name ↔
      lastWord (dropTypeParameters front) = name ∧ IsMethodName name ∧
      (trimEnd (beforeLastWord (dropTypeParameters front))).getLast? ≠ some '.' ∧
      "new".toList ∉ words (beforeLastWord (dropTypeParameters front)) ∧
      ∃ params tail, rest = params ++ ')' :: tail ∧ IsBalanced '(' ')' params ∧
        IsSignatureEnd tail := by
  rw [declaredName?]
  generalize dropTypeParameters front = clear
  have hbefore : ((trimEnd (beforeLastWord clear)).getLast? == some '.' ||
      (words (trimEnd (beforeLastWord clear))).contains "new".toList) = true ↔
      ¬ ((trimEnd (beforeLastWord clear)).getLast? ≠ some '.' ∧
        "new".toList ∉ words (beforeLastWord clear)) := by
    rw [words_trimEnd, Bool.or_eq_true, beq_iff_eq, List.contains_iff_mem, not_and_or, not_not,
      not_not]
  by_cases hname : IsMethodName (lastWord clear)
  · rw [if_neg (mt isMethodName_lastWord_iff.1 (not_not.2 hname))]
    by_cases hfree : (trimEnd (beforeLastWord clear)).getLast? ≠ some '.' ∧
        "new".toList ∉ words (beforeLastWord clear)
    · dsimp only
      rw [if_neg (mt hbefore.1 (not_not.2 hfree)), behindParens_cons]
      simp only [Option.bind_eq_bind, Option.bind_eq_some_iff,
        behindClosing_eq_some_iff (show '(' ≠ ')' by decide)]
      constructor
      · rintro ⟨tail, ⟨params, hrest, hparams⟩, hsome⟩
        split at hsome
        · next htail =>
          obtain rfl := Option.some.inj hsome
          exact ⟨rfl, hname, hfree.1, hfree.2, params, tail, hrest, hparams,
            isSignatureEnd_iff.1 htail⟩
        · cases hsome
      · rintro ⟨rfl, -, -, -, params, tail, hrest, hparams, htail⟩
        exact ⟨tail, ⟨params, hrest, hparams⟩, if_pos (isSignatureEnd_iff.2 htail)⟩
    · dsimp only
      rw [if_pos (hbefore.2 hfree)]
      constructor
      · rintro ⟨⟩
      · rintro ⟨-, -, hdot, hnew, -⟩
        exact absurd ⟨hdot, hnew⟩ hfree
  · rw [if_pos (isMethodName_lastWord_iff.2 hname)]
    constructor
    · rintro ⟨⟩
    · rintro ⟨rfl, hmethod, -⟩
      exact absurd hmethod hname

/-! ## Headers -/

/-- **A header whose front has a name at its end is a declaration.** -/
theorem exists_declaration {front rest name : Text} (hfront : '(' ∉ front) (hequals : '=' ∉ front)
    (htype : ∀ w ∈ words front, w ∉ typeWords)
    (harrow : ¬ ['-', '>'] <:+: front ++ '(' :: rest)
    (h : declaredName? (trimEnd front) ('(' :: rest) = some name) :
    ∃ d : Declaration, d.IsRead ∧ d.text = front ++ '(' :: rest ∧ d.name = name := by
  obtain ⟨rfl, hname, hdot, hnew, params, tail, rfl, hparams, htail⟩ :=
    declaredName?_eq_some_iff.1 h
  obtain ⟨clause, hclause, hsplit⟩ := exists_isClause front
  rw [← beforeLastWord_append_lastWord (dropTypeParameters (trimEnd front))] at hsplit
  generalize dropTypeParameters (trimEnd front) = clear at *
  subst hsplit
  exact ⟨⟨beforeLastWord clear, lastWord clear, clause, params, tail⟩,
    ⟨hname, hclause, hparams, htail, isWordChar_of_getLast_beforeLastWord, hdot, hnew, hfront,
      hequals, htype, harrow⟩, rfl, rfl⟩

/-- The name of a declaration is the one that is looked for. -/
theorem Declaration.IsRead.declaredName?_eq {d : Declaration} (h : d.IsRead) :
    declaredName? (trimEnd d.front) ('(' :: (d.params ++ ')' :: d.tail)) = some d.name := by
  obtain ⟨c, hc⟩ := Option.ne_none_iff_exists'.1
    (mt List.getLast?_eq_none_iff.1 h.isMethodName.ne_nil)
  have hlast : (d.before ++ d.name).getLast? = some c := by
    rw [List.getLast?_append, hc]
    rfl
  have hword : isWordChar c = true := h.isMethodName.isWordChar c (List.mem_of_getLast? hc)
  have hclear : dropTypeParameters (trimEnd d.front) = d.before ++ d.name :=
    dropTypeParameters_of_isClause hlast hword h.isClause
  obtain ⟨hname, hbefore⟩ := lastWord_append h.before_ends h.isMethodName.isWordChar
  rw [declaredName?_eq_some_iff, hclear, hname, hbefore]
  exact ⟨rfl, h.isMethodName, h.not_member, h.not_new, d.params, d.tail, rfl, h.isBalanced,
    h.isSignatureEnd⟩

/-- **Without a word that introduces functions, a header names a method just if it has the parts of
a declaration,** and the name is the one among them. -/
theorem method?_eq_some_iff {header name : Text}
    (h : ∀ w ∈ words ((dropAnnotations (trim header)).takeWhile (· != '(')), w ∉ functionWords) :
    method? header = some name ↔
      ∃ d : Declaration, d.IsRead ∧ d.text = dropAnnotations (trim header) ∧ d.name = name := by
  by_cases hparen : '(' ∈ dropAnnotations (trim header)
  · obtain ⟨front, rest, hsplit, hfront⟩ := List.eq_append_cons_of_mem hparen
    rw [hsplit, (cut_at_paren hfront rest).1] at h
    rw [method?_of_front hfront hsplit, dropWhile_functionWords h, hsplit]
    constructor
    · intro hsome
      split at hsome
      · cases hsome
      · next htype =>
        dsimp only at hsome
        split at hsome
        · cases hsome
        · next hguard =>
          rw [Bool.or_eq_true, holds_iff, List.contains_iff_mem, not_or] at hguard
          refine exists_declaration hfront hguard.2 (fun w hw htypes => htype ?_) hguard.1 hsome
          exact List.any_eq_true.2 ⟨w, hw, List.contains_iff_mem.2 htypes⟩
    · rintro ⟨d, hd, htext, rfl⟩
      obtain ⟨rfl, hrest⟩ : d.front = front ∧ d.params ++ ')' :: d.tail = rest := by
        have htake := congrArg (List.takeWhile (· != '(')) htext
        have hdrop := congrArg (List.dropWhile (· != '(')) htext
        rw [Declaration.text, (cut_at_paren hd.not_paren _).1, (cut_at_paren hfront _).1] at htake
        rw [Declaration.text, (cut_at_paren hd.not_paren _).2, (cut_at_paren hfront _).2] at hdrop
        exact ⟨htake, (List.cons.inj hdrop).2⟩
      have htype : ¬ ((words d.front).any typeWords.contains) = true := by
        simpa using hd.not_type
      have hguard : ¬ (holds ['-', '>'] (d.front ++ '(' :: rest) || d.front.contains '=') = true := by
        rw [Bool.or_eq_true, holds_iff, List.contains_iff_mem, not_or, ← hrest]
        exact ⟨hd.not_arrow, hd.not_assigned⟩
      rw [if_neg htype]
      dsimp only
      rw [if_neg hguard, ← hrest]
      exact hd.declaredName?_eq
  · rw [method?_of_not_mem hparen]
    constructor
    · rintro ⟨⟩
    · rintro ⟨d, -, htext, -⟩
      refine absurd ?_ hparen
      rw [← htext, Declaration.text]
      simp

end CodeFolding.Header
