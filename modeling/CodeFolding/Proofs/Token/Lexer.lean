import CodeFolding.Token.Lexer
import CodeFolding.Proofs.Text.Position
/-!
# How a text is cut into tokens

The tokens of a text are its first token, and the tokens of what that one leaves. Main statements:
the tokens from any of them on are those of the text they make up (`eq_tokens_of_append`), so what
`tokenAt` says of a text holds of every token with the text behind it (`tokenAt_of_append`).
-/
namespace CodeFolding.Language

variable {lang : Language}

theorem tokensFrom_eq (t : Text) (skipped : Nat) (done : Array Token) :
    (lang.tokensFrom t skipped done).toList = done.toList ++ lang.tokens (t.drop skipped) := by
  have hdone : ∀ (t : Text) (skipped : Nat) (done : Array Token),
      (lang.tokensFrom t skipped done).toList =
        done.toList ++ (lang.tokensFrom t skipped #[]).toList := by
    intro t
    induction t with
    | nil => intro skipped done; simp [tokensFrom]
    | cons c rest ih =>
      intro skipped done
      cases skipped with
      | zero => rw [tokensFrom, tokensFrom, ih, ih (_ - 1) (#[].push _)]; simp
      | succ n => rw [tokensFrom, tokensFrom, ih]
  rw [hdone]
  congr 1
  induction t generalizing skipped with
  | nil => simp [tokensFrom, tokens]
  | cons c rest ih =>
    cases skipped with
    | zero => rfl
    | succ n => rw [tokensFrom, ih, List.drop_succ_cons]

@[simp] theorem tokens_nil : lang.tokens [] = [] := rfl

theorem tokens_cons (c : Char) (rest : Text) :
    lang.tokens (c :: rest) =
      ⟨(lang.tokenAt (c :: rest)).1, c :: rest.take ((lang.tokenAt (c :: rest)).2 - 1)⟩ ::
        lang.tokens (rest.drop ((lang.tokenAt (c :: rest)).2 - 1)) := by
  rw [tokens, tokensFrom, tokensFrom_eq]
  rfl

theorem text_ne_nil_of_mem_tokens {t : Text} {k : Token} (h : k ∈ lang.tokens t) :
    k.text ≠ [] := by
  induction hn : t.length using Nat.strongRecOn generalizing t with
  | ind n ih =>
    cases t with
    | nil => simp at h
    | cons c rest =>
      rw [tokens_cons, List.mem_cons] at h
      rcases h with rfl | h
      · simp
      · exact ih _ (by simp only [List.length_cons] at hn; rw [List.length_drop]; omega) h rfl

/-- **The tokens behind some of a text's tokens are the tokens of the text behind these.** -/
theorem eq_tokens_of_append {t : Text} {ks ls : List Token} (h : lang.tokens t = ks ++ ls) :
    ls = lang.tokens (ls.flatMap Token.text) := by
  induction ks generalizing t with
  | nil =>
    obtain rfl : lang.tokens t = ls := by simpa using h
    rw [flatMap_tokens]
  | cons k ks ih =>
    cases t with
    | nil => simp at h
    | cons c rest =>
      rw [tokens_cons, List.cons_append, List.cons.injEq] at h
      exact ih h.2

theorem tokenAt_of_append {t : Text} {ks ls : List Token} {k : Token}
    (h : lang.tokens t = ks ++ k :: ls) :
    ∃ c rest, k.text ++ ls.flatMap Token.text = c :: rest ∧
      k.kind = (lang.tokenAt (c :: rest)).1 ∧
      k.text = c :: rest.take ((lang.tokenAt (c :: rest)).2 - 1) := by
  have hfix := eq_tokens_of_append h
  rw [List.flatMap_cons] at hfix
  cases hrest : k.text ++ ls.flatMap Token.text with
  | nil => rw [hrest] at hfix; simp at hfix
  | cons c rest =>
    rw [hrest, tokens_cons, List.cons.injEq] at hfix
    exact ⟨c, rest, rfl, by rw [hfix.1], by rw [hfix.1]⟩

/-! ## What each kind of token holds -/

theorem tokenAt_newline (rest : Text) : lang.tokenAt ('\n' :: rest) = (.newline, 1) := by
  simp [tokenAt]

theorem kind_of_head?_eq_feed {t : Text} {ks ls : List Token} {k : Token}
    (h : lang.tokens t = ks ++ k :: ls) (hhead : k.text.head? = some '\n') : k.kind = .newline := by
  obtain ⟨c, rest, -, hkind, htext⟩ := tokenAt_of_append h
  obtain rfl : c = '\n' := by simpa [htext] using hhead
  rw [hkind, tokenAt_newline]

theorem snd_tokenAt_of_lineComment {c : Char} {rest : Text}
    (h : (lang.tokenAt (c :: rest)).1 = .lineComment) :
    c ≠ '\n' ∧ (lang.tokenAt (c :: rest)).2 = ((c :: rest).takeWhile (· != '\n')).length := by
  rw [tokenAt] at h ⊢
  split at h
  · simp at h
  · next hc =>
    rw [if_neg hc]
    refine ⟨hc, ?_⟩
    split at h
    · simp at h
    · next hb =>
      rw [if_neg hb]
      split at h
      · next hl => rw [if_pos hl]
      · split at h
        · simp at h
        · split at h <;> simp at h

/-- **A line comment runs to the next line feed, or to the end.** -/
theorem lineComment_of_append {t : Text} {ks ls : List Token} {k : Token}
    (h : lang.tokens t = ks ++ k :: ls) (hkind : k.kind = .lineComment) :
    '\n' ∉ k.text ∧
      (ls.flatMap Token.text = [] ∨ (ls.flatMap Token.text).head? = some '\n') := by
  obtain ⟨c, rest, hsplit, hk, htext⟩ := tokenAt_of_append h
  obtain ⟨hc, hlen⟩ := snd_tokenAt_of_lineComment (hk.symm.trans hkind)
  have hrow : k.text = (c :: rest).takeWhile (· != '\n') := by
    rw [htext, hlen]
    simp only [List.takeWhile_cons, bne_iff_ne, ne_eq, hc, not_false_eq_true, if_true,
      List.length_cons, Nat.add_sub_cancel]
    rw [← List.prefix_iff_eq_take.1 (List.takeWhile_prefix _)]
  have hbehind : ls.flatMap Token.text = (c :: rest).dropWhile (· != '\n') := by
    have := hsplit
    rw [← List.takeWhile_append_dropWhile (p := (· != '\n')) (l := c :: rest), ← hrow] at this
    exact List.append_cancel_left this
  constructor
  · rw [hrow]
    exact Text.not_mem_takeWhile _
  · rw [hbehind]
    exact Text.dropWhile_eq_nil_or_head? _ _

end CodeFolding.Language
