import CodeFolding.Text.Word
import Mathlib.Data.List.Basic
import Mathlib.Data.List.Infix
import Mathlib.Data.List.TakeWhile
/-!
# Words and blanks

The words of a text are those of its pieces, unless a word runs from one piece into the next. Blanks
are no part of words, so the words of a text do not change when blanks around it are cut off. Main
statements: `words_append`, and which pieces of a text are its words (`mem_words_iff`).
-/
namespace CodeFolding

theorem inRanges_eq (ranges : Array (Nat × Nat)) (c : Char) :
    inRanges ranges c =
      (ranges.toList.find? fun r => c.toNat ≤ r.2).any fun r => r.1 ≤ c.toNat := by
  rw [inRanges, ← Array.find?_toList]

theorem isWordChar_of_isBlank {c : Char} (h : isBlank c = true) : isWordChar c = false := by
  have hblanks : ∀ n ∈ [9, 10, 11, 12, 13, 0x20, 0x85, 0xA0, 0x1680, 0x2000, 0x2001, 0x2002, 0x2003,
      0x2004, 0x2005, 0x2006, 0x2007, 0x2008, 0x2009, 0x200A, 0x2028, 0x2029, 0x202F, 0x205F,
      0x3000], isWordChar (Char.ofNat n) = false := by
    simp only [isWordChar, isAlphanumeric, inRanges_eq]
    decide +kernel
  rw [← Char.ofNat_toNat c]
  refine hblanks c.toNat ?_
  simp only [isBlank, Bool.or_eq_true, Bool.and_eq_true, decide_eq_true_eq, beq_iff_eq] at h
  simp only [List.mem_cons, List.not_mem_nil, or_false]
  omega

namespace Text

variable {s t : Text}

/-! ## Blanks around a text -/

theorem trimStart_append_of_blank (h : ∀ c ∈ s, isBlank c = true) (t : Text) :
    trimStart (s ++ t) = trimStart t :=
  List.dropWhile_append_of_pos h

theorem trimStart_append (h : ∃ c ∈ s, isBlank c = false) (t : Text) :
    trimStart (s ++ t) = trimStart s ++ t := by
  have hne : s.dropWhile isBlank ≠ [] := by
    obtain ⟨c, hc, hblank⟩ := h
    intro hnil
    exact absurd (List.dropWhile_eq_nil_iff.1 hnil c hc) (by simp [hblank])
  rw [trimStart, List.dropWhile_append, if_neg (mt List.isEmpty_iff.1 hne), trimStart]

theorem trimStart_append_cons {c : Char} (h : isBlank c = false) (s t : Text) :
    trimStart (s ++ c :: t) = trimStart s ++ c :: t := by
  by_cases hs : ∃ d ∈ s, isBlank d = false
  · exact trimStart_append hs (c :: t)
  · have hall : ∀ d ∈ s, isBlank d = true := fun d hd =>
      eq_true_of_ne_false fun hblank => hs ⟨d, hd, hblank⟩
    have hnil : trimStart s = [] := List.dropWhile_eq_nil_iff.2 hall
    rw [trimStart_append_of_blank hall, hnil, trimStart, List.dropWhile_cons_of_neg (by simp [h])]
    rfl

theorem trimEnd_eq (t : Text) : trimEnd t = (trimStart t.reverse).reverse := rfl

theorem trimEnd_append_of_blank (h : ∀ c ∈ t, isBlank c = true) (s : Text) :
    trimEnd (s ++ t) = trimEnd s := by
  rw [trimEnd_eq, List.reverse_append,
    trimStart_append_of_blank fun c hc => h c (List.mem_reverse.1 hc), trimEnd_eq]

theorem trimEnd_append_cons {c : Char} (h : isBlank c = false) (s t : Text) :
    trimEnd (s ++ c :: t) = s ++ c :: trimEnd t := by
  rw [trimEnd_eq, trimEnd_eq, List.reverse_append, List.reverse_cons, List.append_assoc,
    List.singleton_append, trimStart_append_cons h]
  simp

theorem trimEnd_append_of_getLast {c : Char} (h : isBlank c = false) (s : Text) :
    trimEnd (s ++ [c]) = s ++ [c] := by
  rw [trimEnd_append_cons h, trimEnd]
  rfl

theorem exists_eq_append_trimStart (t : Text) :
    ∃ lead, (∀ c ∈ lead, isBlank c = true) ∧ t = lead ++ trimStart t :=
  ⟨t.takeWhile isBlank, fun _ hc => List.mem_takeWhile_imp hc,
    List.takeWhile_append_dropWhile.symm⟩

theorem exists_eq_trimEnd_append (t : Text) :
    ∃ trail, (∀ c ∈ trail, isBlank c = true) ∧ t = trimEnd t ++ trail := by
  obtain ⟨lead, hlead, ht⟩ := exists_eq_append_trimStart t.reverse
  refine ⟨lead.reverse, fun c hc => hlead c (List.mem_reverse.1 hc), ?_⟩
  rw [trimEnd_eq, ← List.reverse_append, ← ht, List.reverse_reverse]

theorem trimEnd_prefix_self (t : Text) : trimEnd t <+: t := by
  obtain ⟨trail, -, ht⟩ := exists_eq_trimEnd_append t
  exact ⟨trail, ht.symm⟩

theorem trimEnd_cases (t : Text) :
    trimEnd t = [] ∨ ∃ s c, isBlank c = false ∧ trimEnd t = s ++ [c] := by
  have hhead := List.head?_dropWhile_not isBlank t.reverse
  rw [trimEnd]
  cases hrest : t.reverse.dropWhile isBlank with
  | nil => exact Or.inl rfl
  | cons c rest =>
    rw [hrest] at hhead
    exact Or.inr ⟨rest.reverse, c, by simpa using hhead, List.reverse_cons⟩

/-- It makes no difference at which end blanks are cut off first. -/
theorem trimStart_trimEnd (t : Text) : trimStart (trimEnd t) = trim t := by
  obtain ⟨trail, htrail, ht⟩ := exists_eq_trimEnd_append t
  rcases trimEnd_cases t with hnil | ⟨s, c, hc, hs⟩
  · rw [hnil, List.nil_append] at ht
    have hstart : trimStart t = [] := List.dropWhile_eq_nil_iff.2 (ht ▸ htrail)
    rw [hnil, trim, hstart]
    rfl
  · have hstart : trimStart t = trimStart s ++ [c] ++ trail := by
      conv_lhs => rw [ht, hs, List.append_assoc, List.singleton_append, trimStart_append_cons hc]
      simp
    rw [hs, trim, hstart, trimEnd_append_of_blank htrail, trimEnd_append_of_getLast hc,
      trimStart_append_cons hc]

theorem trim_trimEnd (t : Text) : trim (trimEnd t) = trim t := by
  have htwice : trimEnd (trimEnd t) = trimEnd t := by
    rcases trimEnd_cases t with hnil | ⟨s, c, hc, hs⟩
    · rw [hnil]
      rfl
    · rw [hs, trimEnd_append_of_getLast hc]
  rw [← trimStart_trimEnd, htwice, trimStart_trimEnd]

/-! ## The words of a text -/

/-- No word runs from the one text into the other. -/
def IsParted (s t : Text) : Prop :=
  ∀ c ∈ s.getLast?, ∀ d ∈ t.head?, isWordChar c = false ∨ isWordChar d = false

@[simp] theorem words_nil : words [] = [] := rfl

theorem words_cons_of_not {c : Char} (h : isWordChar c = false) (t : Text) :
    words (c :: t) = words t := by
  rw [words, List.foldr_cons, addToWords]
  simp only [h]
  rfl

theorem foldr_addToWords_of_nil (behind : List Text) (s : Text) :
    s.foldr addToWords ([], behind) =
      ((s.foldr addToWords ([], [])).1, (s.foldr addToWords ([], [])).2 ++ behind) := by
  induction s with
  | nil => rfl
  | cons c s ih =>
    rw [List.foldr_cons, List.foldr_cons, ih, addToWords, addToWords]
    split
    · rfl
    · rw [pushWord, pushWord]
      split <;> rfl

theorem words_append_cons {c : Char} (h : isWordChar c = false) (s t : Text) :
    words (s ++ c :: t) = words s ++ words (c :: t) := by
  have hrest : (c :: t).foldr addToWords ([], []) = ([], words t) := by
    rw [List.foldr_cons, addToWords]
    simp only [h]
    rfl
  have hfront : words s =
      pushWord (s.foldr addToWords ([], [])).1 (s.foldr addToWords ([], [])).2 := rfl
  rw [words_cons_of_not h, words, List.foldr_append, hrest, foldr_addToWords_of_nil, hfront]
  dsimp only [pushWord]
  split <;> rfl

/-- **The words of two texts that no word runs through are the words of both.** -/
theorem words_append (h : IsParted s t) : words (s ++ t) = words s ++ words t := by
  cases t with
  | nil => simp
  | cons d t =>
    by_cases hd : isWordChar d = false
    · exact words_append_cons hd s t
    · rcases List.eq_nil_or_concat s with rfl | ⟨s, c, rfl⟩
      · rfl
      · have hc : isWordChar c = false := (h c (by simp) d rfl).resolve_right hd
        rw [List.concat_eq_append, List.append_assoc, List.singleton_append, words_append_cons hc,
          words_append_cons hc, words_cons_of_not hc, words_cons_of_not hc, words_nil,
          List.append_nil]

theorem isParted_of_head {s : Text} (h : ∀ d ∈ t.head?, isWordChar d = false) : IsParted s t :=
  fun _ _ d hd => Or.inr (h d hd)

theorem isParted_of_getLast {t : Text} (h : ∀ c ∈ s.getLast?, isWordChar c = false) :
    IsParted s t :=
  fun c hc _ _ => Or.inl (h c hc)

theorem isWordChar_of_head_of_blank (h : ∀ c ∈ t, isBlank c = true) :
    ∀ c ∈ t.head?, isWordChar c = false :=
  fun c hc => isWordChar_of_isBlank (h c (List.mem_of_head? hc))

theorem isWordChar_of_head_append_cons {d : Char} (hs : ∀ c ∈ s.head?, isWordChar c = false)
    (hd : isWordChar d = false) (t : Text) :
    ∀ c ∈ (s ++ d :: t).head?, isWordChar c = false := by
  intro c hc
  cases s with
  | nil =>
    obtain rfl : d = c := Option.some.inj hc
    exact hd
  | cons e s => exact hs c hc

theorem words_suffix (h : IsParted s t) : words t <:+ words (s ++ t) := by
  rw [words_append h]
  exact List.suffix_append _ _

theorem words_of_forall_not (h : ∀ c ∈ t, isWordChar c = false) : words t = [] := by
  induction t with
  | nil => rfl
  | cons c t ih =>
    rw [words_cons_of_not (h c List.mem_cons_self)]
    exact ih fun d hd => h d (List.mem_cons_of_mem _ hd)

theorem foldr_addToWords_of_forall (h : ∀ c ∈ t, isWordChar c = true) :
    t.foldr addToWords ([], []) = (t, []) := by
  induction t with
  | nil => rfl
  | cons c t ih =>
    rw [List.foldr_cons, ih fun d hd => h d (List.mem_cons_of_mem _ hd), addToWords,
      if_pos (h c List.mem_cons_self)]

theorem words_of_forall (h : ∀ c ∈ t, isWordChar c = true) (hne : t ≠ []) : words t = [t] := by
  rw [words, foldr_addToWords_of_forall h]
  exact if_neg (mt List.isEmpty_iff.1 hne)

theorem words_of_blank (h : ∀ c ∈ t, isBlank c = true) : words t = [] :=
  words_of_forall_not fun c hc => isWordChar_of_isBlank (h c hc)

theorem words_trimStart (t : Text) : words (trimStart t) = words t := by
  obtain ⟨lead, hlead, ht⟩ := exists_eq_append_trimStart t
  have hparted : IsParted lead (trimStart t) := isParted_of_getLast fun c hc =>
    isWordChar_of_isBlank (hlead c (List.mem_of_getLast? hc))
  conv_rhs => rw [ht, words_append hparted, words_of_blank hlead, List.nil_append]

theorem words_trimEnd (t : Text) : words (trimEnd t) = words t := by
  obtain ⟨trail, htrail, ht⟩ := exists_eq_trimEnd_append t
  have hparted : IsParted (trimEnd t) trail :=
    isParted_of_head (isWordChar_of_head_of_blank htrail)
  conv_rhs => rw [ht, words_append hparted, words_of_blank htrail, List.append_nil]

/-! ## The first and the last word -/

/-- A name: letters, digits, `_` and `$`, one at least. -/
structure IsName (t : Text) : Prop where
  ne_nil : t ≠ []
  isWordChar : ∀ c ∈ t, isWordChar c = true

instance (t : Text) : Decidable (IsName t) :=
  decidable_of_iff (t ≠ [] ∧ t.all CodeFolding.isWordChar = true)
    ⟨fun h => ⟨h.1, List.all_eq_true.1 h.2⟩, fun h => ⟨h.ne_nil, List.all_eq_true.2 h.isWordChar⟩⟩

theorem firstWord_append (hs : ∀ c ∈ s, isWordChar c = true)
    (ht : ∀ c ∈ t.head?, isWordChar c = false) : firstWord (s ++ t) = s := by
  rw [firstWord, List.takeWhile_append_of_pos hs]
  cases t with
  | nil => simp
  | cons c t => simp [ht c rfl]

theorem mem_lastWord {c : Char} (h : c ∈ lastWord t) : isWordChar c = true :=
  List.mem_takeWhile_imp (List.mem_reverse.1 h)

theorem isWordChar_of_getLast_beforeLastWord :
    ∀ c ∈ (beforeLastWord t).getLast?, isWordChar c = false := by
  intro c hc
  rw [beforeLastWord, List.getLast?_reverse] at hc
  have hhead := List.head?_dropWhile_not isWordChar t.reverse
  rw [hc] at hhead
  simpa using hhead

theorem lastWord_append (hs : ∀ c ∈ s.getLast?, isWordChar c = false)
    (ht : ∀ c ∈ t, isWordChar c = true) : lastWord (s ++ t) = t ∧ beforeLastWord (s ++ t) = s := by
  have hall : ∀ c ∈ t.reverse, isWordChar c = true := fun c hc => ht c (List.mem_reverse.1 hc)
  have hstop : s.reverse.takeWhile isWordChar = [] ∧ s.reverse.dropWhile isWordChar = s.reverse := by
    rcases List.eq_nil_or_concat s with rfl | ⟨s, c, rfl⟩
    · exact ⟨rfl, rfl⟩
    · have hc : isWordChar c = false := hs c (by simp)
      simp [hc]
  rw [lastWord, beforeLastWord, List.reverse_append, List.takeWhile_append_of_pos hall,
    List.dropWhile_append_of_pos hall, hstop.1, hstop.2]
  simp

/-! ## Words as pieces -/

/-- The text has the word between characters that are no part of one, or at its ends. -/
def IsWordOf (w t : Text) : Prop :=
  IsName w ∧ ∃ before behind, t = before ++ w ++ behind ∧
    (∀ c ∈ before.getLast?, isWordChar c = false) ∧ ∀ c ∈ behind.head?, isWordChar c = false

theorem IsWordOf.mem_words {w : Text} (h : IsWordOf w t) : w ∈ words t := by
  obtain ⟨hname, before, behind, rfl, hbefore, hbehind⟩ := h
  rw [words_append (isParted_of_head hbehind), words_append (isParted_of_getLast hbefore),
    words_of_forall hname.isWordChar hname.ne_nil]
  simp

theorem isParted_firstWord (t : Text) :
    t = firstWord t ++ t.dropWhile isWordChar ∧
      ∀ c ∈ (t.dropWhile isWordChar).head?, isWordChar c = false := by
  refine ⟨List.takeWhile_append_dropWhile.symm, fun c hc => ?_⟩
  have hhead := List.head?_dropWhile_not isWordChar t
  rw [Option.mem_def.1 hc] at hhead
  simpa using hhead

theorem isName_firstWord (h : firstWord t ≠ []) : IsName (firstWord t) :=
  ⟨h, fun _ hc => List.mem_takeWhile_imp hc⟩

theorem isWordOf_firstWord (h : firstWord t ≠ []) : IsWordOf (firstWord t) t := by
  obtain ⟨ht, hrest⟩ := isParted_firstWord t
  exact ⟨isName_firstWord h, [], _, ht, by simp, hrest⟩

/-- A word of what is behind a text is a word of both, if it does not begin with it or the text
ends in no word. -/
theorem IsWordOf.append_left {w : Text} (h : IsWordOf w t) (hs : IsParted s t) :
    IsWordOf w (s ++ t) := by
  obtain ⟨hname, before, behind, rfl, hbefore, hbehind⟩ := h
  refine ⟨hname, s ++ before, behind, by simp, fun c hc => ?_, hbehind⟩
  rcases List.eq_nil_or_concat before with rfl | ⟨before, d, rfl⟩
  · obtain ⟨d, w, rfl⟩ := List.exists_cons_of_ne_nil hname.ne_nil
    rw [List.append_nil] at hc
    refine (hs c hc d rfl).resolve_right ?_
    simp [hname.isWordChar d List.mem_cons_self]
  · rw [List.concat_eq_append, ← List.append_assoc, List.getLast?_concat] at hc
    rw [List.concat_eq_append, List.getLast?_concat] at hbefore
    exact hbefore c hc

/-- **The words of a text are its longest pieces of letters, digits, `_` and `$`.** -/
theorem mem_words_iff {w : Text} : w ∈ words t ↔ IsWordOf w t := by
  refine ⟨fun h => ?_, IsWordOf.mem_words⟩
  induction hn : t.length using Nat.strongRecOn generalizing t with
  | ind n ih =>
    cases t with
    | nil => simp at h
    | cons c rest =>
      cases hc : isWordChar c with
      | false =>
        rw [words_cons_of_not hc] at h
        have hrest := ih rest.length (by simp [← hn]) h rfl
        exact hrest.append_left (s := [c]) (isParted_of_getLast (by simpa using hc))
      | true =>
        -- the first word stands apart from the others
        obtain ⟨ht, hrest⟩ := isParted_firstWord (c :: rest)
        have hne : firstWord (c :: rest) ≠ [] := by simp [firstWord, hc]
        have hparted := isParted_of_head (s := firstWord (c :: rest)) hrest
        rw [ht, words_append hparted, words_of_forall (isName_firstWord hne).isWordChar hne,
          List.singleton_append, List.mem_cons] at h
        rcases h with rfl | h
        · exact isWordOf_firstWord hne
        · have hlength : ((c :: rest).dropWhile isWordChar).length < n := by
            have := (List.dropWhile_suffix isWordChar (l := rest)).length_le
            rw [List.dropWhile_cons_of_pos hc, ← hn, List.length_cons]
            omega
          rw [ht]
          exact (ih _ hlength h rfl).append_left hparted

end Text

end CodeFolding
