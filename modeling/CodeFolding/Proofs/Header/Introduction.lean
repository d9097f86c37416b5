import CodeFolding.Proofs.Header.Front
/-!
# Functions that a word introduces

In `func (s *Server) Handle(w Writer)` a word introduces the function and a receiver stands in front
of its name, in `fn parse<T>(s: T)` a type-parameter clause stands behind it, and in
`fun <T> parse(s: T)` in front. The name found is the first word behind the one that introduces the
function; only if there is none in front of the first parenthesis is it looked for behind the
receiver. So a clause in front of the name is read as the name. Main statement:
`method?_of_isIntroduced`.
-/
namespace CodeFolding.Header

open Text

/-- The inside of a type-parameter clause without parentheses and keywords. -/
structure IsParameters (inner : Text) : Prop where
  no_paren : '(' ∉ inner ∧ ')' ∉ inner
  plain : ∀ w ∈ words inner, w ∉ controlWords ∧ w ∉ typeWords ∧ w ∉ functionWords

/-- What may stand in front of a name or behind it: blanks, and a type-parameter clause. -/
abbrev IsSpacing : Text → Prop := IsGap IsParameters

/-- The parts of a header in which a word introduces a function. -/
structure Introduction where
  modifiers : Text
  word : Text
  /-- What stands behind the word. -/
  lead : Text
  /-- What stands in the parentheses of the receiver, and what stands behind them. -/
  receiver : Option (Text × Text)
  name : Text
  /-- What stands between the name and the parameters. -/
  behind : Text
  /-- What stands behind the parenthesis that opens the parameters. -/
  rest : Text

namespace Introduction

/-- What stands in front of the name, from the receiver on. -/
def middle (i : Introduction) : Text :=
  match i.receiver with
  | none => []
  | some (inner, gap) => '(' :: (inner ++ ')' :: gap)

def text (i : Introduction) : Text :=
  i.modifiers ++ i.word ++ i.lead ++ i.middle ++ i.name ++ i.behind ++ '(' :: i.rest

/-- The parts are what they are meant to be. -/
structure IsIntroduced (i : Introduction) : Prop where
  isModifiers : IsModifiers i.modifiers
  mem_functionWords : i.word ∈ functionWords
  isSpacing_lead : IsSpacing i.lead
  /-- The name is no part of the word. -/
  lead_ne_nil : i.receiver = none → i.lead ≠ []
  receiver : ∀ r ∈ i.receiver, IsBalanced '(' ')' r.1 ∧ IsSpacing r.2
  isName : IsName i.name
  plain : i.name ∉ controlWords ∧ i.name ∉ typeWords ∧ i.name ∉ functionWords
  isSpacing_behind : IsSpacing i.behind

end Introduction

/-! ## What stands around a name -/

namespace IsSpacing

variable {t : Text}

theorem not_mem_paren (h : IsSpacing t) : '(' ∉ t := by
  cases h with
  | blank _ hblank => exact fun hmem => absurd (hblank _ hmem) (by decide)
  | brackets gap inner gap' hblank hinner hblank' =>
    have hgap : '(' ∉ gap := fun hmem => absurd (hblank _ hmem) (by decide)
    have hgap' : '(' ∉ gap' := fun hmem => absurd (hblank' _ hmem) (by decide)
    simp [hgap, hgap', hinner.no_paren.1]

theorem not_mem_typeWords (h : IsSpacing t) : ∀ w ∈ words t, w ∉ typeWords := by
  cases h with
  | blank _ hblank => simp [words_of_blank hblank]
  | brackets gap inner gap' hblank hinner hblank' =>
    rw [words_append_cons (by decide), words_cons_of_not (by decide), words_append_cons (by decide),
      words_cons_of_not (by decide), words_of_blank hblank, words_of_blank hblank']
    simpa using fun w hw => (hinner.plain w hw).2.1

/-- **A name is found behind blanks, and none is found behind a clause.** -/
theorem firstWord_append (h : IsSpacing t) {name rest : Text} (hname : IsName name)
    (hrest : ∀ c ∈ rest.head?, isWordChar c = false) :
    firstWord (trimStart (t ++ (name ++ rest))) = if '<' ∈ t then [] else name := by
  have hstart : trimStart (name ++ rest) = name ++ rest := by
    obtain ⟨c, cs, rfl⟩ := List.exists_cons_of_ne_nil hname.ne_nil
    have hc := isBlank_eq_false_of_isWordChar (hname.isWordChar c List.mem_cons_self)
    rw [trimStart, List.cons_append, List.dropWhile_cons_of_neg (by simp [hc])]
  cases h with
  | blank _ hblank =>
    rw [if_neg fun hmem => absurd (hblank _ hmem) (by decide), trimStart_append_of_blank hblank,
      hstart, Text.firstWord_append hname.isWordChar hrest]
  | brackets gap inner gap' hblank =>
    rw [if_pos (by simp), List.append_assoc, trimStart_append_of_blank hblank]
    rfl

end IsSpacing

/-! ## The header -/

namespace Introduction.IsIntroduced

variable {i : Introduction}

/-- Without a receiver the name is one of the words that are looked through. -/
theorem method?_of_none (h : i.IsIntroduced) (hnone : i.receiver = none) :
    method? i.text = some ((words i.lead).headD i.name) := by
  -- the first parenthesis is that of the parameters, so all in front of it is looked through
  have hhead : ∀ c ∈ (i.lead ++ (i.name ++ i.behind)).head?, isWordChar c = false := by
    rw [List.head?_append_of_ne_nil _ (h.lead_ne_nil hnone)]
    exact h.isSpacing_lead.isWordChar_of_head
  have hparen : '(' ∉ i.lead ++ (i.name ++ i.behind) := by
    have hname : '(' ∉ i.name := fun hmem => absurd (h.isName.isWordChar _ hmem) (by decide +kernel)
    simp [h.isSpacing_lead.not_mem_paren, hname, h.isSpacing_behind.not_mem_paren]
  have hwords : words (i.lead ++ (i.name ++ i.behind)) =
      words i.lead ++ i.name :: words i.behind := by
    rw [words_append (isParted_of_getLast h.isSpacing_lead.isWordChar_of_getLast),
      words_append (isParted_of_head h.isSpacing_behind.isWordChar_of_head),
      words_of_forall h.isName.isWordChar h.isName.ne_nil]
    rfl
  have htype : ∀ w ∈ words (i.lead ++ (i.name ++ i.behind)), w ∉ typeWords := by
    intro w hw
    rw [hwords, List.mem_append, List.mem_cons] at hw
    rcases hw with hw | rfl | hw
    · exact h.isSpacing_lead.not_mem_typeWords w hw
    · exact h.plain.2.1
    · exact h.isSpacing_behind.not_mem_typeWords w hw
  have htext : i.text =
      i.modifiers ++ i.word ++ (i.lead ++ (i.name ++ i.behind)) ++ '(' :: i.rest := by
    simp [text, middle, hnone]
  rw [htext, h.isModifiers.method?_of_functionWord h.mem_functionWords hhead hparen htype, hwords]
  cases words i.lead <;> rfl

/-- With a receiver the name is behind what is looked through. -/
theorem method?_of_some (h : i.IsIntroduced) {inner gap : Text}
    (hsome : i.receiver = some (inner, gap)) :
    method? i.text =
      match words i.lead with
      | w :: _ => some w
      | [] => if '<' ∈ gap then none else some i.name := by
  -- the first parenthesis is that of the receiver, so only what leads up to it is looked through
  obtain ⟨hinner, hgap⟩ := h.receiver _ hsome
  have htext : i.text = i.modifiers ++ i.word ++ i.lead ++
      '(' :: (inner ++ ')' :: (gap ++ (i.name ++ (i.behind ++ '(' :: i.rest)))) := by
    simp [text, middle, hsome]
  have htrim : trimEnd (inner ++ ')' :: (gap ++ (i.name ++ (i.behind ++ '(' :: i.rest)))) =
      inner ++ ')' :: (gap ++ (i.name ++ (i.behind ++ '(' :: trimEnd i.rest))) := by
    have hsplit : gap ++ (i.name ++ (i.behind ++ '(' :: i.rest)) =
        (gap ++ i.name ++ i.behind) ++ '(' :: i.rest := by simp
    rw [trimEnd_append_cons (by decide), hsplit, trimEnd_append_cons (by decide)]
    simp
  have hbehind : ∀ c ∈ (i.behind ++ '(' :: trimEnd i.rest).head?, isWordChar c = false :=
    isWordChar_of_head_append_cons h.isSpacing_behind.isWordChar_of_head (by decide) _
  rw [htext, h.isModifiers.method?_of_functionWord h.mem_functionWords
    h.isSpacing_lead.isWordChar_of_head h.isSpacing_lead.not_mem_paren
    h.isSpacing_lead.not_mem_typeWords, htrim]
  cases words i.lead with
  | cons w ws => rfl
  | nil =>
    rw [introducedName?_of_isBalanced hinner, hgap.firstWord_append h.isName hbehind]
    dsimp only
    split
    · rfl
    · rw [if_neg h.isName.ne_nil]

end Introduction.IsIntroduced

/-- **The name of a function that a word introduces is found unless a type-parameter clause stands
in front of it.** A word of a clause between the word and the name, or the receiver, is taken for
the name; behind a clause that follows a receiver none is found. -/
theorem method?_of_isIntroduced {i : Introduction} (h : i.IsIntroduced) :
    (words i.lead = [] → (∀ r ∈ i.receiver, '<' ∉ r.2) → method? i.text = some i.name) ∧
      (∀ w, (words i.lead).head? = some w → method? i.text = some w) ∧
      (words i.lead = [] → (∃ r ∈ i.receiver, '<' ∈ r.2) → method? i.text = none) := by
  cases hreceiver : i.receiver with
  | none =>
    rw [h.method?_of_none hreceiver]
    refine ⟨fun hlead _ => by rw [hlead]; rfl, fun w hw => ?_, ?_⟩
    · rw [List.headD_eq_head?_getD, hw]
      rfl
    · rintro - ⟨r, hr, -⟩
      cases hr
  | some r =>
    obtain ⟨inner, gap⟩ := r
    rw [h.method?_of_some hreceiver]
    refine ⟨fun hlead hgap => ?_, fun w hw => ?_, fun hlead hgap => ?_⟩
    · rw [hlead]
      exact if_neg (hgap _ rfl)
    · obtain ⟨ws, hlead⟩ := List.head?_eq_some_iff.1 hw
      rw [hlead]
    · obtain ⟨r, hr, hmem⟩ := hgap
      obtain rfl : (inner, gap) = r := Option.some.inj hr
      rw [hlead]
      exact if_pos hmem

/-- A receiver in front of the name and a clause behind it. -/
theorem method?_of_isIntroduced_handle :
    let i : Introduction :=
      ⟨[], "func".toList, " ".toList, some ("s *Server".toList, " ".toList), "Handle".toList,
        "<T>".toList, "w Writer) error".toList⟩
    i.IsIntroduced ∧ method? i.text = some "Handle".toList := by
  intro i
  have hi : i.IsIntroduced :=
    { isModifiers := by decide
      mem_functionWords := by decide
      isSpacing_lead := .blank _ (List.all_eq_true.1 (by decide))
      lead_ne_nil := by decide
      receiver := fun r hr => by
        obtain rfl := Option.some.inj hr
        exact ⟨isBalanced_of_not_mem (by decide) (by decide),
          .blank _ (List.all_eq_true.1 (by decide))⟩
      isName := by decide +kernel
      plain := by decide
      isSpacing_behind := .brackets [] "T".toList [] (by simp) ⟨by decide, by decide +kernel⟩ (by simp) }
  refine ⟨hi, (method?_of_isIntroduced hi).1 (by decide +kernel) fun r hr => ?_⟩
  obtain rfl := Option.some.inj hr
  decide

/-- A type parameter in front of the name is taken for the name. -/
theorem method?_of_type_parameter :
    ∃ i : Introduction, i.IsIntroduced ∧ i.text = "fun <T> id(x: T)".toList ∧
      i.name = "id".toList ∧ method? i.text = some "T".toList := by
  refine ⟨⟨[], "fun".toList, " <T> ".toList, none, "id".toList, [], "x: T)".toList⟩, ?_, rfl, rfl,
    by decide +kernel⟩
  exact
    { isModifiers := by decide
      mem_functionWords := by decide
      isSpacing_lead := .brackets " ".toList "T".toList " ".toList
        (List.all_eq_true.1 (by decide)) ⟨by decide, by decide +kernel⟩
        (List.all_eq_true.1 (by decide))
      lead_ne_nil := by decide
      receiver := by simp
      isName := by decide +kernel
      plain := by decide
      isSpacing_behind := .blank [] (by simp) }

end CodeFolding.Header
