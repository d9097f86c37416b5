import CodeFolding.Proofs.Text.Position
/-!
# Both ways to end a line

A text with a carriage return in front of every line feed. Main statements: a piece that holds no
line feed begins this text if it begins the text without the returns (`prefix_withReturns_iff`),
and offsets move behind the returns in front of them, which keeps their order (`moved_lt_iff`).
-/
namespace CodeFolding.Text

/-- The text with a carriage return in front of every line feed. -/
def withReturns (t : Text) : Text := t.flatMap fun c => if c = '\n' then ['\r', '\n'] else [c]

@[simp] theorem withReturns_nil : withReturns [] = [] := rfl

@[simp] theorem withReturns_feed (t : Text) :
    withReturns ('\n' :: t) = '\r' :: '\n' :: withReturns t := rfl

theorem withReturns_cons {c : Char} (h : c ≠ '\n') (t : Text) :
    withReturns (c :: t) = c :: withReturns t := by
  rw [withReturns, List.flatMap_cons, if_neg h]
  rfl

@[simp] theorem withReturns_append (s t : Text) :
    withReturns (s ++ t) = withReturns s ++ withReturns t := List.flatMap_append

theorem withReturns_of_not_mem {t : Text} (h : '\n' ∉ t) : withReturns t = t := by
  induction t with
  | nil => rfl
  | cons c t ih =>
    rw [List.mem_cons, not_or] at h
    rw [withReturns_cons (Ne.symm h.1), ih h.2]

theorem withReturns_eq_iff {s t : Text} (hfeed : '\n' ∉ s) (hreturn : '\r' ∉ s) :
    withReturns t = s ↔ t = s := by
  constructor
  · intro h
    have hmem : '\n' ∉ t := fun hmem => hreturn (h ▸ List.mem_flatMap.2 ⟨'\n', hmem, by simp⟩)
    rw [← h, withReturns_of_not_mem hmem]
  · rintro rfl
    exact withReturns_of_not_mem hfeed

@[simp] theorem newlines_withReturns (t : Text) : newlines (withReturns t) = newlines t := by
  induction t with
  | nil => rfl
  | cons c t ih =>
    by_cases hc : c = '\n'
    · rw [hc, withReturns_feed, newlines_cons, newlines_cons, newlines_cons, ih]
      simp
    · rw [withReturns_cons hc, newlines_cons, newlines_cons, ih]

theorem size_withReturns (t : Text) : size (withReturns t) = size t + newlines t := by
  induction t with
  | nil => rfl
  | cons c t ih =>
    have hreturn : Char.utf8Size '\r' = 1 := by decide
    by_cases hc : c = '\n'
    · rw [hc, withReturns_feed, size_cons, size_cons, size_cons, newlines_cons, ih, hreturn,
        if_pos rfl]
      omega
    · rw [withReturns_cons hc, size_cons, size_cons, newlines_cons, ih, if_neg hc]
      omega

theorem exists_of_withReturns_eq_cons {t rest : Text} {c : Char} (h : withReturns t = c :: rest)
    (hc : c ≠ '\r') : ∃ rest', t = c :: rest' ∧ withReturns rest' = rest := by
  cases t with
  | nil => simp at h
  | cons d t =>
    by_cases hd : d = '\n'
    · rw [hd, withReturns_feed] at h
      exact absurd (List.cons.inj h).1.symm hc
    · rw [withReturns_cons hd] at h
      obtain ⟨rfl, hrest⟩ := List.cons.inj h
      exact ⟨t, rfl, hrest⟩

/-- **A piece without line feeds begins both texts or none**, unless it ends in the return of a line
feed that it has not reached. -/
theorem prefix_withReturns_iff {piece t : Text} (hfeed : '\n' ∉ piece)
    (hreturn : piece.getLast? ≠ some '\r') : piece <+: withReturns t ↔ piece <+: t := by
  constructor
  · intro h
    induction piece generalizing t with
    | nil => exact List.nil_prefix
    | cons c piece ih =>
      rw [List.mem_cons, not_or] at hfeed
      obtain ⟨rest, hrest⟩ := h
      cases t with
      | nil => simp at hrest
      | cons d t =>
        by_cases hd : d = '\n'
        · rw [hd, withReturns_feed, List.cons_append, List.cons.injEq] at hrest
          cases piece with
          | nil => exact absurd (by rw [hrest.1]; rfl) hreturn
          | cons e piece =>
            have he := (List.cons.inj hrest.2).1
            exact absurd (he ▸ List.mem_cons_self) hfeed.2
        · rw [withReturns_cons hd, List.cons_append, List.cons.injEq] at hrest
          rw [hrest.1, List.cons_prefix_cons]
          refine ⟨rfl, ?_⟩
          cases piece with
          | nil => exact List.nil_prefix
          | cons e piece =>
            rw [List.getLast?_cons_cons] at hreturn
            exact ih hfeed.2 hreturn ⟨rest, hrest.2⟩
  · rintro ⟨rest, rfl⟩
    rw [withReturns_append, withReturns_of_not_mem hfeed]
    exact List.prefix_append _ _

theorem isPrefixOf_withReturns {piece t : Text} (hfeed : '\n' ∉ piece)
    (hreturn : piece.getLast? ≠ some '\r') :
    piece.isPrefixOf (withReturns t) = piece.isPrefixOf t := by
  rw [Bool.eq_iff_iff, List.isPrefixOf_iff_prefix, List.isPrefixOf_iff_prefix,
    prefix_withReturns_iff hfeed hreturn]

theorem isPrefixOf_feed {part : Text} (hfeed : '\n' ∉ part) (t : Text) :
    part.isPrefixOf ('\n' :: t) = part.isEmpty := by
  cases part with
  | nil => rfl
  | cons d part =>
    have hd : d ≠ '\n' := fun h => hfeed (h ▸ List.mem_cons_self)
    simp [List.isPrefixOf, hd]

/-- A phrase without line feeds and returns stands in both texts or in none. -/
theorem holds_withReturns {part t : Text} (hfeed : '\n' ∉ part) (hreturn : '\r' ∉ part) :
    holds part (withReturns t) = holds part t := by
  have hlast : part.getLast? ≠ some '\r' := fun h => hreturn (List.mem_of_getLast? h)
  induction t with
  | nil => rfl
  | cons c t ih =>
    have hbegin := isPrefixOf_withReturns (t := c :: t) hfeed hlast
    by_cases hc : c = '\n'
    · subst hc
      rw [withReturns_feed] at hbegin ⊢
      rw [holds, holds, holds, hbegin, isPrefixOf_feed hfeed, isPrefixOf_feed hfeed, ih]
      cases part with
      | nil => rfl
      | cons d part => rfl
    · rw [withReturns_cons hc] at hbegin ⊢
      rw [holds, holds, hbegin, ih]

/-! ## Where offsets move -/

/-- The line feeds that begin in front of an offset. -/
def feedsBefore : Text → Nat → Nat
  | [], _ => 0
  | c :: rest, n =>
    if n = 0 then 0 else (if c = '\n' then 1 else 0) + feedsBefore rest (n - c.utf8Size)

theorem feedsBefore_append (front rest : Text) :
    feedsBefore (front ++ rest) (size front) = newlines front := by
  induction front with
  | nil => cases rest <;> rfl
  | cons c front ih =>
    have := c.utf8Size_pos
    rw [List.cons_append, feedsBefore, size_cons, if_neg (by omega), Nat.add_sub_cancel_left, ih,
      newlines_cons, Nat.add_comm]

theorem feedsBefore_mono (t : Text) {m n : Nat} (h : m ≤ n) :
    feedsBefore t m ≤ feedsBefore t n := by
  induction t generalizing m n with
  | nil => exact Nat.le_refl _
  | cons c t ih =>
    by_cases hm : m = 0
    · rw [feedsBefore, if_pos hm]
      exact Nat.zero_le _
    · have hn : n ≠ 0 := by omega
      rw [feedsBefore, feedsBefore, if_neg hm, if_neg hn]
      exact Nat.add_le_add_left (ih (by omega)) _

/-- Where the offset of a text lies in the text with returns. -/
def moved (t : Text) (n : Nat) : Nat := n + feedsBefore t n

theorem moved_size (front rest : Text) :
    moved (front ++ rest) (size front) = size (withReturns front) := by
  rw [moved, feedsBefore_append, size_withReturns]

@[simp] theorem moved_lt_iff (t : Text) (m n : Nat) : moved t m < moved t n ↔ m < n := by
  have hmono : ∀ {i j}, i ≤ j → moved t i ≤ moved t j := fun h =>
    Nat.add_le_add h (feedsBefore_mono t h)
  constructor
  · intro h
    exact Nat.lt_of_not_le fun hle => absurd (hmono hle) (Nat.not_le.2 h)
  · intro h
    exact Nat.add_lt_add_of_lt_of_le h (feedsBefore_mono t (Nat.le_of_lt h))

@[simp] theorem moved_le_iff (t : Text) (m n : Nat) : moved t m ≤ moved t n ↔ m ≤ n := by
  rw [← Nat.not_lt, ← Nat.not_lt, moved_lt_iff]

end CodeFolding.Text
