import CodeFolding.Header
import CodeFolding.Proofs.Text.Brackets
import CodeFolding.Proofs.Text.Words
/-!
# The front of a header

A header is read up to its first parenthesis. The words in front of it say which of two ways its
name is looked for. Main statements: `method?_of_front` (how a header is read whose first
parenthesis is known), `IsModifiers.method?_append` (modifiers in front of a word are passed over).
-/
namespace CodeFolding.Header

open Text

/-! ## Annotations -/

theorem suffix_of_behindClosing {opening closing : Char} {depth : Nat} {t behind : Text}
    (h : behindClosing opening closing depth t = some behind) : behind <:+ t := by
  induction t generalizing depth with
  | nil => cases depth <;> cases h
  | cons c t ih =>
    unfold behindClosing at h
    split at h
    · exact (ih h).trans (List.suffix_cons c t)
    · split at h
      · split at h
        · cases h
        · exact Option.some.inj h ▸ List.suffix_cons c t
        · exact (ih h).trans (List.suffix_cons c t)
      · exact (ih h).trans (List.suffix_cons c t)

theorem behindDecorator_suffix (t : Text) : behindDecorator t <:+ t := by
  have hbehind : trimStart (t.dropWhile fun c => isWordChar c || c == '.') <:+ t :=
    (List.dropWhile_suffix _).trans (List.dropWhile_suffix _)
  rw [behindDecorator]
  split
  · cases hparens : behindParens (trimStart (t.dropWhile fun c => isWordChar c || c == '.')) with
    | none => exact List.nil_suffix
    | some behind =>
      exact ((List.dropWhile_suffix _).trans (suffix_of_behindClosing hparens)).trans hbehind
  · exact hbehind

theorem dropAnnotationsFuel_eq {fuel fuel' : Nat} {t : Text} (h : t.length ≤ fuel)
    (h' : t.length ≤ fuel') : dropAnnotationsFuel fuel t = dropAnnotationsFuel fuel' t := by
  induction fuel generalizing fuel' t with
  | zero =>
    obtain rfl := List.length_eq_zero_iff.1 (Nat.le_zero.1 h)
    cases fuel' <;> rfl
  | succ fuel ih =>
    cases t with
    | nil => cases fuel' <;> rfl
    | cons c rest =>
      have hle := (behindDecorator_suffix rest).length_le
      rw [List.length_cons] at h h'
      cases fuel' with
      | zero => omega
      | succ fuel' =>
        have hrest := @ih fuel' (behindDecorator rest) (by omega) (by omega)
        rw [dropAnnotationsFuel, dropAnnotationsFuel, hrest]

/-- **Annotations are dropped one after the other.** -/
theorem dropAnnotations_at (rest : Text) :
    dropAnnotations ('@' :: rest) = dropAnnotations (behindDecorator rest) := by
  rw [dropAnnotations, List.length_cons, dropAnnotationsFuel, if_pos rfl]
  exact dropAnnotationsFuel_eq (behindDecorator_suffix rest).length_le (Nat.le_refl _)

theorem dropAnnotations_of_head {t : Text} (h : t.head? ≠ some '@') : dropAnnotations t = t := by
  cases t with
  | nil => rfl
  | cons c t =>
    rw [dropAnnotations, List.length_cons, dropAnnotationsFuel, if_neg fun hc => h (by rw [hc]; rfl)]

/-! ## The first parenthesis -/

theorem cut_at_paren {front : Text} (h : '(' ∉ front) (rest : Text) :
    (front ++ '(' :: rest).takeWhile (· != '(') = front ∧
      (front ++ '(' :: rest).dropWhile (· != '(') = '(' :: rest := by
  have hpass : ∀ c ∈ front, (c != '(') = true := fun c hc =>
    bne_iff_ne.2 fun heq => h (heq ▸ hc)
  rw [List.takeWhile_append_of_pos hpass, List.dropWhile_append_of_pos hpass]
  simp

theorem method?_of_not_mem {header : Text} (h : '(' ∉ dropAnnotations (trim header)) :
    method? header = none := by
  have hnil : (dropAnnotations (trim header)).dropWhile (· != '(') = [] :=
    List.dropWhile_eq_nil_iff.2 fun c hc => bne_iff_ne.2 fun heq => h (heq ▸ hc)
  rw [method?, hnil]
  rfl

/-- **How a header is read whose first parenthesis is known.** -/
theorem method?_of_front {header front rest : Text} (hfront : '(' ∉ front)
    (h : dropAnnotations (trim header) = front ++ '(' :: rest) :
    method? header =
      if (words front).any typeWords.contains then none
      else match (words front).dropWhile fun w => !functionWords.contains w with
        | _ :: behind => introducedName? behind ('(' :: rest)
        | [] =>
          if holds ['-', '>'] (front ++ '(' :: rest) || front.contains '=' then none
          else declaredName? (trimEnd front) ('(' :: rest) := by
  obtain ⟨htake, hdrop⟩ := cut_at_paren hfront rest
  have hequals : (trimEnd front).contains '=' = front.contains '=' := by
    obtain ⟨trail, htrail, ht⟩ := exists_eq_trimEnd_append front
    have hnot : '=' ∉ trail := fun hmem => absurd (htrail _ hmem) (by decide)
    rw [Bool.eq_iff_iff, List.contains_iff_mem, List.contains_iff_mem]
    conv_rhs => rw [ht, List.mem_append]
    simp [hnot]
  rw [method?, h]
  simp only [htake, hdrop, words_trimEnd, hequals]
  rfl

theorem isName_of_mem_functionWords {w : Text} (h : w ∈ functionWords) :
    IsName w ∧ w ∉ typeWords := by
  have hall : ∀ w ∈ functionWords, IsName w ∧ w ∉ typeWords := by decide +kernel
  exact hall w h

theorem dropWhile_functionWords {ws : List Text} (h : ∀ w ∈ ws, w ∉ functionWords) :
    ws.dropWhile (fun w => !functionWords.contains w) = [] :=
  List.dropWhile_eq_nil_iff.2 fun w hw => by simpa using h w hw

theorem behindParens_cons (rest : Text) :
    behindParens ('(' :: rest) = behindClosing '(' ')' 1 rest := rfl

/-- With no word behind the one that introduces a function, its name follows the parentheses. -/
theorem introducedName?_of_isBalanced {inner : Text} (h : IsBalanced '(' ')' inner) (rest : Text) :
    introducedName? [] ('(' :: (inner ++ ')' :: rest)) =
      if firstWord (trimStart rest) = [] then none else some (firstWord (trimStart rest)) := by
  have hbehind : behindParens ('(' :: (inner ++ ')' :: rest)) = some rest := by
    rw [behindParens_cons, behindClosing_eq_some_iff (by decide)]
    exact ⟨inner, rfl, h⟩
  rw [introducedName?, hbehind]
  simp only [Option.bind_eq_bind, Option.bind_some, List.isEmpty_iff]

/-- **A header that does not begin with an annotation keeps all but the blanks around it.** -/
theorem dropAnnotations_trim {front : Text} (h : (trimStart front).head? ≠ some '@')
    (rest : Text) :
    dropAnnotations (trim (front ++ '(' :: rest)) = trimStart front ++ '(' :: trimEnd rest := by
  rw [trim, trimStart_append_cons (by decide), trimEnd_append_cons (by decide)]
  apply dropAnnotations_of_head
  cases hfront : trimStart front with
  | nil => rintro ⟨⟩
  | cons c front =>
    rw [hfront] at h
    exact h

/-! ## What stands around a name -/

/-- Blanks, and perhaps a type-parameter clause among them whose inside is as `Inside` has it. -/
inductive IsGap (Inside : Text → Prop) : Text → Prop where
  | blank (gap : Text) (isBlank : ∀ c ∈ gap, isBlank c = true) : IsGap Inside gap
  | brackets (gap inner gap' : Text) (isBlank : ∀ c ∈ gap, isBlank c = true)
    (inside : Inside inner) (isBlank' : ∀ c ∈ gap', CodeFolding.isBlank c = true) :
    IsGap Inside (gap ++ '<' :: (inner ++ '>' :: gap'))

namespace IsGap

variable {Inside : Text → Prop} {t : Text}

theorem isWordChar_of_head (h : IsGap Inside t) : ∀ c ∈ t.head?, isWordChar c = false := by
  cases h with
  | blank _ hblank => exact isWordChar_of_head_of_blank hblank
  | brackets gap inner gap' hblank =>
    exact isWordChar_of_head_append_cons (isWordChar_of_head_of_blank hblank) (by decide) _

theorem isWordChar_of_getLast (h : IsGap Inside t) :
    ∀ c ∈ t.getLast?, isWordChar c = false := by
  intro c hc
  cases h with
  | blank _ hblank => exact isWordChar_of_isBlank (hblank c (List.mem_of_getLast? hc))
  | brackets gap inner gap' _ _ hblank =>
    have hlast : c = '>' ∨ c ∈ gap' := by
      have hsplit : gap ++ '<' :: (inner ++ '>' :: gap') = (gap ++ '<' :: inner) ++ '>' :: gap' := by
        simp
      rw [hsplit, List.getLast?_append_cons] at hc
      exact List.mem_cons.1 (List.mem_of_getLast? hc)
    rcases hlast with rfl | hgap
    · decide
    · exact isWordChar_of_isBlank (hblank c hgap)

end IsGap

/-! ## Words in front of a name -/

theorem isBlank_eq_false_of_isWordChar {c : Char} (h : isWordChar c = true) : isBlank c = false := by
  cases hblank : isBlank c with
  | false => rfl
  | true => exact absurd (isWordChar_of_isBlank hblank) (by simp [h])

/-- Words with blanks behind each of them, none of which makes a header something else than the
header of a method. -/
structure IsModifiers (t : Text) : Prop where
  spelled : ∀ c ∈ t, isWordChar c = true ∨ isBlank c = true
  ends_blank : ∀ c ∈ t.getLast?, isBlank c = true
  plain : ∀ w ∈ words t, w ∉ controlWords ∧ w ∉ typeWords ∧ w ∉ functionWords

instance (t : Text) : Decidable (IsModifiers t) :=
  decidable_of_iff ((t.all fun c => isWordChar c || isBlank c) = true ∧
      t.getLast?.all isBlank = true ∧
      ∀ w ∈ words t, w ∉ controlWords ∧ w ∉ typeWords ∧ w ∉ functionWords) <| by
    rw [List.all_eq_true, Option.all_eq_true]
    simp only [Bool.or_eq_true]
    exact ⟨fun h => ⟨h.1, h.2.1, h.2.2⟩, fun h => ⟨h.spelled, h.ends_blank, h.plain⟩⟩

namespace IsModifiers

variable {modifiers word more : Text}

theorem not_mem (h : IsModifiers modifiers) {c : Char} (hword : isWordChar c = false)
    (hblank : isBlank c = false) : c ∉ modifiers := by
  intro hc
  rcases h.spelled c hc with htrue | htrue
  · exact absurd htrue (by simp [hword])
  · exact absurd htrue (by simp [hblank])

theorem mem_of_mem_trimStart {c : Char} (h : c ∈ trimStart modifiers) : c ∈ modifiers :=
  (List.dropWhile_suffix _).subset h

theorem getLast_trimStart (h : IsModifiers modifiers) :
    ∀ c ∈ (trimStart modifiers).getLast?, isBlank c = true := by
  intro c hc
  obtain ⟨lead, -, ht⟩ := exists_eq_append_trimStart modifiers
  refine h.ends_blank c ?_
  rw [ht, List.getLast?_append, Option.mem_def.1 hc]
  rfl

theorem trimStart_append (hword : IsName word) (more : Text) :
    trimStart (modifiers ++ word ++ more) = trimStart modifiers ++ word ++ more := by
  obtain ⟨c, rest, rfl⟩ := List.exists_cons_of_ne_nil hword.ne_nil
  have hc := isBlank_eq_false_of_isWordChar (hword.isWordChar c List.mem_cons_self)
  rw [List.append_assoc, List.cons_append, trimStart_append_cons hc]
  simp

theorem words_append (h : IsModifiers modifiers) (hword : IsName word)
    (hmore : ∀ c ∈ more.head?, isWordChar c = false) :
    words (trimStart modifiers ++ word ++ more) = words modifiers ++ word :: words more := by
  have hfront : IsParted (trimStart modifiers) word := isParted_of_getLast fun c hc =>
    isWordChar_of_isBlank (h.getLast_trimStart c hc)
  rw [Text.words_append (isParted_of_head hmore), Text.words_append hfront, words_trimStart,
    words_of_forall hword.isWordChar hword.ne_nil]
  simp

theorem head?_ne (h : IsModifiers modifiers) (hword : IsName word) (more : Text) :
    (trimStart (modifiers ++ word ++ more)).head? ≠ some '@' := by
  rw [trimStart_append hword, List.append_assoc]
  intro hhead
  cases hm : trimStart modifiers with
  | nil =>
    obtain ⟨c, rest, rfl⟩ := List.exists_cons_of_ne_nil hword.ne_nil
    rw [hm] at hhead
    obtain rfl : c = '@' := Option.some.inj hhead
    exact absurd (hword.isWordChar _ List.mem_cons_self) (by decide)
  | cons c rest =>
    rw [hm] at hhead
    obtain rfl : c = '@' := Option.some.inj hhead
    exact h.not_mem (by decide) (by decide) (mem_of_mem_trimStart (hm ▸ List.mem_cons_self))

theorem not_mem_front (h : IsModifiers modifiers) (hword : IsName word) {c : Char}
    (hc : isWordChar c = false) (hblank : isBlank c = false) (hmore : c ∉ more) :
    c ∉ trimStart modifiers ++ word ++ more := by
  simp only [List.mem_append, not_or]
  refine ⟨⟨fun hmem => h.not_mem hc hblank (mem_of_mem_trimStart hmem), fun hmem => ?_⟩, hmore⟩
  exact absurd (hword.isWordChar c hmem) (by simp [hc])

theorem dropAnnotations_trim (h : IsModifiers modifiers) (hword : IsName word)
    (more rest : Text) :
    dropAnnotations (trim (modifiers ++ word ++ more ++ '(' :: rest)) =
      trimStart modifiers ++ word ++ more ++ '(' :: trimEnd rest := by
  rw [Header.dropAnnotations_trim (h.head?_ne hword more), trimStart_append hword]

/-- **Modifiers are passed over.** -/
theorem method?_append (h : IsModifiers modifiers) (hword : IsName word)
    (hmore : ∀ c ∈ more.head?, isWordChar c = false) (hparen : '(' ∉ more) (rest : Text) :
    method? (modifiers ++ word ++ more ++ '(' :: rest) =
      if (word :: words more).any typeWords.contains then none
      else match (word :: words more).dropWhile fun w => !functionWords.contains w with
        | _ :: behind => introducedName? behind ('(' :: trimEnd rest)
        | [] =>
          if holds ['-', '>'] (trimStart modifiers ++ word ++ more ++ '(' :: trimEnd rest) ||
              (trimStart modifiers ++ word ++ more).contains '=' then none
          else declaredName? (trimEnd (trimStart modifiers ++ word ++ more))
            ('(' :: trimEnd rest) := by
  have htypes : (words modifiers).any typeWords.contains = false :=
    List.any_eq_false.2 fun w hw => by simpa using (h.plain w hw).2.1
  have hfunctions : ∀ w ∈ words modifiers, (!functionWords.contains w) = true := fun w hw => by
    simpa using (h.plain w hw).2.2
  rw [method?_of_front (h.not_mem_front hword (by decide) (by decide) hparen)
    (h.dropAnnotations_trim hword more rest), h.words_append hword hmore, List.any_append, htypes,
    Bool.false_or, List.dropWhile_append_of_pos hfunctions]

/-- **Behind modifiers and a word that introduces a function, its name is looked for.** -/
theorem method?_of_functionWord (h : IsModifiers modifiers) (hword : word ∈ functionWords)
    (hmore : ∀ c ∈ more.head?, isWordChar c = false) (hparen : '(' ∉ more)
    (htype : ∀ w ∈ words more, w ∉ typeWords) (rest : Text) :
    method? (modifiers ++ word ++ more ++ '(' :: rest) =
      introducedName? (words more) ('(' :: trimEnd rest) := by
  obtain ⟨hname, hplain⟩ := isName_of_mem_functionWords hword
  have htypes : ¬ (word :: words more).any typeWords.contains = true := by
    simpa using ⟨hplain, htype⟩
  rw [h.method?_append hname hmore hparen, if_neg htypes,
    List.dropWhile_cons_of_neg (by simpa using hword)]

end IsModifiers

end CodeFolding.Header
