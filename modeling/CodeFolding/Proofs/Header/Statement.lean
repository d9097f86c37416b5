import CodeFolding.Proofs.Header.Declaration
import CodeFolding.Proofs.Survey.Headers
/-!
# Headers of control statements

The header in front of the body of a statement such as `if` begins with the word of the statement.
That word is never taken for the name of a method. A name is found in the condition though, if the
condition is not in parentheses and ends in a call: then the header is written as a declaration is.
Main statement: `method?_of_statement`.
-/
namespace CodeFolding.Header

open Text

/-- Words of statements whose body is a block. -/
def statementWords : List Text := ["if", "while", "for", "switch", "match"].map String.toList

theorem mem_controlWords_of_mem_statementWords : ∀ w ∈ statementWords, w ∈ controlWords := by
  decide

/-! ## The words of a header -/

theorem words_behindDecorator (t : Text) : words (behindDecorator t) <:+ words t := by
  -- the annotation ends where its name does, or at a parenthesis: neither is inside of a word
  have hparted : IsParted (t.takeWhile fun c => isWordChar c || c == '.')
      (t.dropWhile fun c => isWordChar c || c == '.') := by
    have hhead := List.head?_dropWhile_not (fun c => isWordChar c || c == '.') t
    refine isParted_of_head fun c hc => ?_
    rw [Option.mem_def.1 hc] at hhead
    exact (by simpa using hhead : isWordChar c = false ∧ c ≠ '.').1
  have hbehind :
      words (trimStart (t.dropWhile fun c => isWordChar c || c == '.')) <:+ words t := by
    have hsuffix := words_suffix hparted
    rwa [List.takeWhile_append_dropWhile, ← words_trimStart] at hsuffix
  rw [behindDecorator]
  split
  · next hparen =>
    obtain ⟨rest, hrest⟩ := List.isPrefixOf_iff_prefix.1 hparen
    rw [List.singleton_append] at hrest
    rw [← hrest] at hbehind ⊢
    rw [behindParens_cons]
    cases hclosing : behindClosing '(' ')' 1 rest with
    | none => exact List.nil_suffix
    | some behind =>
      obtain ⟨inner, rfl, -⟩ := (behindClosing_eq_some_iff (by decide)).1 hclosing
      have hinner : words behind <:+ words (inner ++ ')' :: behind) := by
        rw [words_append_cons (by decide), words_cons_of_not (by decide)]
        exact List.suffix_append _ _
      rw [words_cons_of_not (by decide)] at hbehind
      show words (trimStart behind) <:+ words t
      rw [words_trimStart]
      exact hinner.trans hbehind
  · exact hbehind

theorem words_dropAnnotationsFuel (fuel : Nat) (t : Text) :
    words (dropAnnotationsFuel fuel t) <:+ words t := by
  induction fuel generalizing t with
  | zero => exact List.suffix_refl _
  | succ fuel ih =>
    cases t with
    | nil => exact List.suffix_refl _
    | cons c rest =>
      rw [dropAnnotationsFuel]
      split
      · next hat =>
        have hrest : words (c :: rest) = words rest := by rw [hat, words_cons_of_not (by decide)]
        rw [hrest]
        exact (ih (behindDecorator rest)).trans (words_behindDecorator rest)
      · exact List.suffix_refl _

theorem words_dropAnnotations_trim (header : Text) :
    words (dropAnnotations (trim header)) <:+ words header := by
  have htrim : words (trim header) = words header := by
    rw [trim, words_trimEnd, words_trimStart]
  have hdrop : words (dropAnnotations (trim header)) <:+ words (trim header) :=
    words_dropAnnotationsFuel _ _
  rwa [htrim] at hdrop

/-- **The words that a header is looked through for are words of it.** -/
theorem mem_words_of_mem_front {header w : Text}
    (h : w ∈ words ((dropAnnotations (trim header)).takeWhile (· != '('))) : w ∈ words header := by
  refine (words_dropAnnotations_trim header).subset ?_
  by_cases hparen : '(' ∈ dropAnnotations (trim header)
  · obtain ⟨front, rest, hsplit, hfront⟩ := List.eq_append_cons_of_mem hparen
    rw [hsplit, (cut_at_paren hfront rest).1] at h
    rw [hsplit, words_append_cons (by decide)]
    exact List.mem_append_left _ h
  · have hall : ∀ c ∈ dropAnnotations (trim header), (c != '(') = true := fun c hc =>
      bne_iff_ne.2 fun heq => hparen (heq ▸ hc)
    rwa [List.takeWhile_eq_self_iff.2 hall] at h

/-- The name of a declaration is a word in front of its parameters. -/
theorem Declaration.IsRead.words_front {d : Declaration} (h : d.IsRead) :
    words d.front = words d.before ++ d.name :: words d.clause := by
  rw [front, words_append (isParted_of_head h.isClause.isWordChar_of_head),
    words_append (isParted_of_getLast h.before_ends),
    words_of_forall h.isMethodName.isWordChar h.isMethodName.ne_nil]
  simp

theorem Declaration.IsRead.words_text {d : Declaration} (h : d.IsRead) :
    words d.text =
      words d.before ++ d.name :: (words d.clause ++ words (d.params ++ ')' :: d.tail)) := by
  rw [text, words_append_cons (by decide), words_cons_of_not (by decide), h.words_front]
  simp

/-! ## Statements -/

/-- The word of a statement stands in front of the name that is found. -/
theorem Declaration.IsRead.head?_words_before {d : Declaration} {w : Text} (h : d.IsRead)
    (hw : w ∈ statementWords) (hfirst : (words d.text).head? = some w) :
    (words d.before).head? = some w := by
  rw [h.words_text] at hfirst
  cases hbefore : words d.before with
  | nil =>
    rw [hbefore] at hfirst
    obtain rfl : d.name = w := Option.some.inj hfirst
    exact absurd (mem_controlWords_of_mem_statementWords _ hw) h.isMethodName.not_control
  | cons u ws =>
    rw [hbefore] at hfirst
    exact hfirst

/-- **Where a statement is taken for a method.** A header that begins with the word of a statement
and has no word that introduces functions names a method just if it has the parts of a declaration.
Then the word of the statement stands in front of the name. So no name is found if this word is the
only one in front of the first parenthesis, as it is where the condition is in parentheses; and a
pair of braces behind the header is a method in the one case and is none in the other. -/
theorem method?_of_statement {header w : Text} (hw : w ∈ statementWords)
    (hfirst : (words header).head? = some w) (hplain : ∀ f ∈ functionWords, f ∉ words header) :
    (∀ name, method? header = some name ↔
      ∃ d : Declaration, d.IsRead ∧ d.text = dropAnnotations (trim header) ∧ d.name = name) ∧
    ((trim header).head? ≠ some '@' → ∀ d : Declaration, d.IsRead →
      d.text = dropAnnotations (trim header) → (words d.before).head? = some w) ∧
    (words ((dropAnnotations (trim header)).takeWhile (· != '(')) = [w] →
      method? header = none) ∧
    ∀ ks p, (headerBefore ks p.1).reversed.reverse = header →
      (methodOf ks p = none ↔
        ∀ d : Declaration, d.IsRead → d.text ≠ dropAnnotations (trim header)) := by
  have hname : ∀ name, method? header = some name ↔
      ∃ d : Declaration, d.IsRead ∧ d.text = dropAnnotations (trim header) ∧ d.name = name :=
    fun name => method?_eq_some_iff fun u hu hfunction =>
      hplain u hfunction (mem_words_of_mem_front hu)
  have hnone : method? header = none ↔
      ∀ d : Declaration, d.IsRead → d.text ≠ dropAnnotations (trim header) := by
    rw [Option.eq_none_iff_forall_ne_some]
    constructor
    · exact fun h d hd htext => h d.name ((hname d.name).2 ⟨d, hd, htext, rfl⟩)
    · intro h name hsome
      obtain ⟨d, hd, htext, -⟩ := (hname name).1 hsome
      exact h d hd htext
  refine ⟨hname, ?_, ?_, ?_⟩
  · intro hat d hd htext
    refine hd.head?_words_before hw ?_
    rw [htext, dropAnnotations_of_head hat, trim, words_trimEnd, words_trimStart, hfirst]
  · intro hfront
    refine hnone.2 fun d hd htext => ?_
    rw [← htext, Declaration.text, (cut_at_paren hd.not_paren _).1, hd.words_front] at hfront
    obtain rfl : d.name = w :=
      List.mem_singleton.1 (hfront ▸ List.mem_append_right _ List.mem_cons_self)
    exact hd.isMethodName.not_control (mem_controlWords_of_mem_statementWords _ hw)
  · rintro ks p rfl
    rw [methodOf, HeaderText.method?, Option.map_eq_none_iff, Option.map_eq_none_iff, hnone]

/-- A condition in parentheses, with a call in it. -/
theorem method?_of_statement_of_parens :
    "if".toList ∈ statementWords ∧ (words "if (ready(x))".toList).head? = some "if".toList ∧
      (∀ f ∈ functionWords, f ∉ words "if (ready(x))".toList) ∧
      method? "if (ready(x))".toList = none := by
  have hw : "if".toList ∈ statementWords := by decide
  have hfirst : (words "if (ready(x))".toList).head? = some "if".toList := by decide +kernel
  have hplain : ∀ f ∈ functionWords, f ∉ words "if (ready(x))".toList := by decide +kernel
  have hfront : words ((dropAnnotations (trim "if (ready(x))".toList)).takeWhile (· != '(')) =
      ["if".toList] := by decide +kernel
  exact ⟨hw, hfirst, hplain, (method?_of_statement hw hfirst hplain).2.2.1 hfront⟩

/-- A call is found in a condition that is not in parentheses. -/
theorem method?_of_bare_call :
    "if".toList ∈ statementWords ∧ (words "if ready(x)".toList).head? = some "if".toList ∧
      (∀ f ∈ functionWords, f ∉ words "if ready(x)".toList) ∧
      method? "if ready(x)".toList = some "ready".toList := by
  decide +kernel

end CodeFolding.Header
