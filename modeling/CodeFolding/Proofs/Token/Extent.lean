import CodeFolding.Proofs.Token.Lexer
/-!
# How far a token reaches

One lemma for every function that measures a piece of a text: the text splits there, and what the
piece ends in is known. Main statements: a text begins with the token that the tests in front of it
leave (`beginsWith_tokenAt`), and a comment or a literal ends in a character that is not blank, or
with its line (`endsInInk_of_append`).
-/
namespace CodeFolding

/-! ## The end of a piece -/

/-- `a` ends in a character that is not blank, or `b`, which is behind it, begins with the end of
the line. -/
def Text.EndsInInk (a b : Text) : Prop :=
  (∃ c, a.getLast? = some c ∧ isBlank c = false) ∨ b = [] ∨ b.head? = some '\n'

theorem Text.getLast?_append_of_some {a : Text} {c : Char} (front : Text)
    (h : a.getLast? = some c) : (front ++ a).getLast? = some c := by
  rw [List.getLast?_append, h, Option.some_or]

theorem Text.getLast?_cons_of_some {a : Text} {c : Char} (d : Char)
    (h : a.getLast? = some c) : (d :: a).getLast? = some c :=
  getLast?_append_of_some [d] h

theorem Text.EndsInInk.append {a b : Text} (h : EndsInInk a b) (front : Text) :
    EndsInInk (front ++ a) b := by
  rcases h with ⟨c, hc, hink⟩ | h
  · exact Or.inl ⟨c, getLast?_append_of_some front hc, hink⟩
  · exact Or.inr h

theorem Text.lengthThrough_of_begins {mark t : Text} (h : mark <+: t) (n : Nat) :
    lengthThrough mark t n = n + mark.length := by
  cases t with
  | nil => rw [List.prefix_nil.1 h]; rfl
  | cons c t => rw [lengthThrough, if_pos (List.isPrefixOf_iff_prefix.2 h)]

theorem Text.lengthThrough_of_not_begins {mark t : Text} {c : Char} (h : ¬ mark <+: c :: t)
    (n : Nat) : lengthThrough mark (c :: t) n = lengthThrough mark t (n + 1) := by
  rw [lengthThrough, if_neg (mt List.isPrefixOf_iff_prefix.1 h)]

theorem Text.exists_split_lengthThrough (mark t : Text) (n : Nat) :
    ∃ a b, t = a ++ b ∧ lengthThrough mark t n = n + a.length ∧ (mark <:+ a ∨ b = []) := by
  induction t generalizing n with
  | nil => exact ⟨[], [], rfl, rfl, Or.inr rfl⟩
  | cons c rest ih =>
    by_cases h : mark <+: c :: rest
    · obtain ⟨b, hb⟩ := h
      exact ⟨mark, b, hb.symm, lengthThrough_of_begins ⟨b, hb⟩ n, Or.inl (List.suffix_refl _)⟩
    · obtain ⟨a, b, rfl, hlength, hend⟩ := ih (n + 1)
      refine ⟨c :: a, b, rfl, ?_, ?_⟩
      · rw [lengthThrough_of_not_begins h, hlength, List.length_cons]
        omega
      · exact hend.imp (fun h => h.trans (List.suffix_cons c a)) id

theorem exists_split_quotedFrom (quote : Char) (multiline escaped : Bool) (t : Text) (n : Nat) :
    ∃ a b, t = a ++ b ∧ quotedFrom quote multiline escaped t n = n + a.length ∧
      (a.getLast? = some quote ∨ b = [] ∨ b.head? = some '\n') := by
  induction t generalizing escaped n with
  | nil => exact ⟨[], [], rfl, by cases escaped <;> rfl, Or.inr (Or.inl rfl)⟩
  | cons c rest ih =>
    have hnext : ∀ escaped', ∃ a b, c :: rest = a ++ b ∧
        quotedFrom quote multiline escaped' rest (n + 1) = n + a.length ∧
        (a.getLast? = some quote ∨ b = [] ∨ b.head? = some '\n') := by
      intro escaped'
      obtain ⟨a, b, rfl, hlength, hend⟩ := ih escaped' (n + 1)
      refine ⟨c :: a, b, rfl, ?_, hend.imp (Text.getLast?_cons_of_some c) id⟩
      rw [hlength, List.length_cons]
      omega
    cases escaped with
    | true => exact hnext false
    | false =>
      rw [quotedFrom]
      split
      · exact hnext true
      · split
        · next hc => exact ⟨[c], rest, rfl, rfl, Or.inl (by simp [hc])⟩
        · split
          · next hc =>
            have hfeed : c = '\n' := by simp_all
            exact ⟨[], c :: rest, rfl, rfl, Or.inr (Or.inr (by simp [hfeed]))⟩
          · exact hnext false

/-! ## Character literals -/

/-- The closing quote in the window behind a backslash is the first one behind the character that
the backslash takes. -/
theorem findIdx?_window_eq_some_iff {t : Text} {j : Nat} :
    (((t.take escapeWindow).takeWhile (· != '\n')).drop 1).findIdx? (· == '\'') = some j ↔
      ∃ c mid b, t = c :: (mid ++ '\'' :: b) ∧ '\n' ∉ c :: mid ∧ '\'' ∉ mid ∧
        mid.length + 2 ≤ escapeWindow ∧ j = mid.length := by
  constructor
  · intro h
    obtain ⟨v, hv⟩ := (List.takeWhile_prefix (p := (· != '\n')) (l := t.take escapeWindow)).trans
      (List.take_prefix escapeWindow t)
    have hlength := (List.takeWhile_prefix (p := (· != '\n')) (l := t.take escapeWindow)).length_le
    have hfeed := Text.not_mem_takeWhile (t.take escapeWindow)
    cases hw : (t.take escapeWindow).takeWhile (· != '\n') with
    | nil => rw [hw] at h; simp at h
    | cons c w =>
      rw [hw] at h hv hlength hfeed
      obtain ⟨hj, hquote, hfirst⟩ := List.findIdx?_eq_some_iff_getElem.1 h
      simp only [List.drop_succ_cons, List.drop_zero, List.length_cons, List.length_take,
        beq_iff_eq] at hj hquote hfirst hlength
      have hsplit : w = w.take j ++ '\'' :: w.drop (j + 1) := by
        rw [← hquote, ← List.drop_eq_getElem_cons hj, List.take_append_drop]
      refine ⟨c, w.take j, w.drop (j + 1) ++ v, ?_, ?_, ?_, ?_, ?_⟩
      · rw [← hv, List.cons_append]
        conv => lhs; rw [hsplit]
        simp
      · intro hmem
        refine hfeed (List.mem_cons.2 ?_)
        exact (List.mem_cons.1 hmem).imp id List.mem_of_mem_take
      · intro hmem
        obtain ⟨i, hi, hget⟩ := List.mem_iff_getElem.1 hmem
        rw [List.length_take] at hi
        rw [List.getElem_take] at hget
        exact hfirst i (by omega) hget
      · rw [List.length_take]
        omega
      · rw [List.length_take]
        omega
  · rintro ⟨c, mid, b, rfl, hfeed, hquote, hlength, rfl⟩
    have hfits : (c :: (mid ++ ['\''])).length ≤ escapeWindow := by
      rw [List.length_cons, List.length_append]
      exact hlength
    have htake : (c :: (mid ++ '\'' :: b)).take escapeWindow =
        (c :: (mid ++ ['\''])) ++ b.take (escapeWindow - (mid.length + 2)) := by
      rw [show c :: (mid ++ '\'' :: b) = (c :: (mid ++ ['\''])) ++ b by simp,
        List.take_append, List.take_of_length_le hfits]
      simp
    have hpass : ∀ d ∈ c :: (mid ++ ['\'']), (d != '\n') = true := by
      intro d hd
      rw [bne_iff_ne]
      rintro rfl
      rw [← List.cons_append, List.mem_append] at hd
      exact hd.elim hfeed (by simp)
    have hnone : mid.findIdx? (· == '\'') = none := by
      rw [List.findIdx?_eq_none_iff]
      intro d hd
      rw [beq_eq_false_iff_ne]
      rintro rfl
      exact hquote hd
    rw [htake, List.takeWhile_append_of_pos hpass, List.cons_append, List.drop_succ_cons,
      List.drop_zero, List.append_assoc, List.findIdx?_append, hnone, List.cons_append,
      List.findIdx?_cons]
    simp

/-- **A character literal is a character between quotes, or a backslash with the character it takes
and what is behind that up to the next quote.** -/
theorem charLength?_eq_some_iff {rest : Text} {n : Nat} :
    charLength? ('\'' :: rest) = some n ↔
      (∃ c b, rest = c :: '\'' :: b ∧ c ≠ '\n' ∧ c ≠ '\'' ∧ c ≠ '\\' ∧ n = 3) ∨
      ∃ c mid b, rest = '\\' :: c :: (mid ++ '\'' :: b) ∧ '\n' ∉ c :: mid ∧ '\'' ∉ mid ∧
        mid.length + 2 ≤ escapeWindow ∧ n = mid.length + 4 := by
  cases rest with
  | nil => simp [charLength?]
  | cons d rest =>
    by_cases hd : d = '\\'
    · subst hd
      have hlength : charLength? ('\'' :: '\\' :: rest) =
          ((((rest.take escapeWindow).takeWhile (· != '\n')).drop 1).findIdx?
            (· == '\'')).map (· + 4) := rfl
      rw [hlength, Option.map_eq_some_iff]
      constructor
      · rintro ⟨j, hj, rfl⟩
        obtain ⟨c, mid, b, rfl, hfeed, hquote, hwindow, rfl⟩ :=
          findIdx?_window_eq_some_iff.1 hj
        exact Or.inr ⟨c, mid, b, rfl, hfeed, hquote, hwindow, rfl⟩
      · rintro (⟨c, b, h, -, -, hc, -⟩ | ⟨c, mid, b, h, hfeed, hquote, hwindow, rfl⟩)
        · exact absurd (List.cons.inj h).1.symm hc
        · exact ⟨mid.length, findIdx?_window_eq_some_iff.2
            ⟨c, mid, b, (List.cons.inj h).2, hfeed, hquote, hwindow, rfl⟩, rfl⟩
    · have hchar : charLength? ('\'' :: d :: rest) = some n ↔
          d ≠ '\n' ∧ d ≠ '\'' ∧ (∃ b, rest = '\'' :: b) ∧ n = 3 := by
        simp only [charLength?, List.drop_succ_cons, List.drop_zero]
        split
        · next h =>
          have hstop : d = '\n' ∨ d = '\'' := by simpa using h
          rcases hstop with rfl | rfl <;> simp
        · next h =>
          have hgo : d ≠ '\n' ∧ d ≠ '\'' := by simpa using h
          split
          · simp [hgo, eq_comm]
          · next hrest =>
            have hnone : ¬ ∃ b, rest = '\'' :: b := fun ⟨b, hb⟩ => hrest b hb
            simp [hnone]
      rw [hchar]
      constructor
      · rintro ⟨hfeed, hquote, ⟨b, rfl⟩, rfl⟩
        exact Or.inl ⟨d, b, rfl, hfeed, hquote, hd, rfl⟩
      · rintro (⟨c, b, h, hfeed, hquote, -, rfl⟩ | ⟨c, mid, b, h, -⟩)
        · obtain ⟨rfl, rfl⟩ := List.cons.inj h
          exact ⟨hfeed, hquote, ⟨b, rfl⟩, rfl⟩
        · exact absurd (List.cons.inj h).1 hd

/-- What a character literal is behind its first quote. -/
def IsCharBody (body : Text) : Prop :=
  (∃ c, body = [c, '\''] ∧ c ≠ '\n' ∧ c ≠ '\'' ∧ c ≠ '\\') ∨
    ∃ c mid, body = '\\' :: c :: (mid ++ ['\'']) ∧ '\n' ∉ c :: mid ∧ '\'' ∉ mid ∧
      mid.length + 2 ≤ escapeWindow

theorem IsCharBody.getLast?_eq {body : Text} (h : IsCharBody body) :
    body.getLast? = some '\'' := by
  rcases h with ⟨c, rfl, -⟩ | ⟨c, mid, rfl, -⟩
  · rfl
  · exact Text.getLast?_append_of_some ('\\' :: c :: mid) rfl

theorem IsCharBody.not_mem {body : Text} (h : IsCharBody body) : '\n' ∉ body := by
  rcases h with ⟨c, rfl, hfeed, -⟩ | ⟨c, mid, rfl, hfeed, -⟩
  · simp [Ne.symm hfeed]
  · rw [List.mem_cons, not_or] at hfeed
    simp [hfeed.1, hfeed.2]

/-- **A text behind a quote holds a character literal if a body of one begins it.** -/
theorem charLength?_eq_some_iff_body {rest : Text} {n : Nat} :
    charLength? ('\'' :: rest) = some n ↔
      ∃ body, body <+: rest ∧ IsCharBody body ∧ n = body.length + 1 := by
  rw [charLength?_eq_some_iff]
  constructor
  · rintro (⟨c, b, rfl, hfeed, hquote, hslash, rfl⟩ | ⟨c, mid, b, rfl, hfeed, hquote, hwindow, rfl⟩)
    · exact ⟨[c, '\''], ⟨b, rfl⟩, Or.inl ⟨c, rfl, hfeed, hquote, hslash⟩, rfl⟩
    · exact ⟨'\\' :: c :: (mid ++ ['\'']), ⟨b, by simp⟩,
        Or.inr ⟨c, mid, rfl, hfeed, hquote, hwindow⟩, by simp⟩
  · rintro ⟨body, ⟨b, rfl⟩, ⟨c, rfl, hfeed, hquote, hslash⟩ |
      ⟨c, mid, rfl, hfeed, hquote, hwindow⟩, rfl⟩
    · exact Or.inl ⟨c, b, rfl, hfeed, hquote, hslash, rfl⟩
    · exact Or.inr ⟨c, mid, b, by simp, hfeed, hquote, hwindow, by simp⟩

/-! ## Pieces in front of a text -/

/-- The text begins with a piece of `n` characters, at least one, that ends in ink or with its
line. -/
def Text.HasPiece (t : Text) (n : Nat) : Prop :=
  ∃ a b, t = a ++ b ∧ a ≠ [] ∧ a.length = n ∧ EndsInInk a b

theorem Text.hasPiece_through {opening mark t : Text} {c : Char} (hopening : opening <+: t)
    (hne : opening ≠ []) (hmark : mark.getLast? = some c) (hink : isBlank c = false) :
    HasPiece t (lengthThrough mark (t.drop opening.length) opening.length) := by
  obtain ⟨rest, rfl⟩ := hopening
  rw [List.drop_left]
  obtain ⟨a, b, rfl, hlength, hend⟩ := exists_split_lengthThrough mark rest opening.length
  refine ⟨opening ++ a, b, by simp, by simp [hne], by simp [hlength], EndsInInk.append ?_ opening⟩
  rcases hend with ⟨front, rfl⟩ | hend
  · exact Or.inl ⟨c, getLast?_append_of_some front hmark, hink⟩
  · exact Or.inr (Or.inl hend)

theorem hasPiece_quotedLength {quote : Char} (multiline : Bool) (rest : Text)
    (hink : isBlank quote = false) :
    Text.HasPiece (quote :: rest) (quotedLength quote multiline (quote :: rest)) := by
  obtain ⟨a, b, rfl, hlength, hend⟩ := exists_split_quotedFrom quote multiline false rest 1
  refine ⟨quote :: a, b, rfl, by simp, ?_, ?_⟩
  · rw [quotedLength, List.drop_succ_cons, List.drop_zero, hlength, List.length_cons]
    omega
  · exact hend.imp (fun h => ⟨quote, Text.getLast?_cons_of_some quote h, hink⟩) id

theorem hasPiece_charLength? {rest : Text} {n : Nat} (h : charLength? ('\'' :: rest) = some n) :
    Text.HasPiece ('\'' :: rest) n := by
  obtain ⟨body, ⟨b, rfl⟩, hbody, rfl⟩ := charLength?_eq_some_iff_body.1 h
  refine ⟨'\'' :: body, b, rfl, by simp, rfl, Or.inl ⟨'\'', ?_, by decide⟩⟩
  exact Text.getLast?_cons_of_some '\'' hbody.getLast?_eq

namespace Language

variable {lang : Language}

theorem blockLength?_eq_some_iff {t : Text} {n : Nat} :
    lang.blockLength? t = some n ↔ lang = .braces ∧ ['/', '*'] <+: t ∧
      n = Text.lengthThrough ['*', '/'] (t.drop 2) 2 := by
  cases lang <;> simp [blockLength?, comments, @eq_comm _ n]

/-- The text begins with a literal of the given length. -/
inductive BeginsLiteral (lang : Language) : Text → Nat → Prop where
  | tripleDouble {t : Text} : tripleDouble <+: t →
      BeginsLiteral lang t (Text.lengthThrough tripleDouble (t.drop 3) 3)
  | tripleSingle {t : Text} : lang ≠ .braces → tripleSingle <+: t →
      BeginsLiteral lang t (Text.lengthThrough tripleSingle (t.drop 3) 3)
  | double {rest : Text} : ¬ CodeFolding.tripleDouble <+: '"' :: rest →
      BeginsLiteral lang ('"' :: rest) (quotedLength '"' false ('"' :: rest))
  | back {rest : Text} : lang = .braces →
      BeginsLiteral lang ('`' :: rest) (quotedLength '`' true ('`' :: rest))
  | char {rest : Text} {n : Nat} : lang = .braces → charLength? ('\'' :: rest) = some n →
      BeginsLiteral lang ('\'' :: rest) n
  | single {rest : Text} : lang ≠ .braces → ¬ CodeFolding.tripleSingle <+: '\'' :: rest →
      BeginsLiteral lang ('\'' :: rest) (quotedLength '\'' false ('\'' :: rest))

theorem literalLength?_eq_some_iff {t : Text} {n : Nat} :
    lang.literalLength? t = some n ↔ lang.BeginsLiteral t n := by
  constructor
  · intro h
    unfold literalLength? at h
    split at h
    · next hd => exact Option.some.inj h ▸ .tripleDouble (List.isPrefixOf_iff_prefix.1 hd)
    · next hd =>
      rw [List.isPrefixOf_iff_prefix] at hd
      split at h
      · next hs =>
        rw [Bool.and_eq_true, List.isPrefixOf_iff_prefix, bne_iff_ne] at hs
        exact Option.some.inj h ▸ .tripleSingle hs.2 hs.1
      · next hs =>
        rw [Bool.and_eq_true, List.isPrefixOf_iff_prefix, bne_iff_ne] at hs
        split at h
        · exact Option.some.inj h ▸ .double hd
        · obtain ⟨hl, hn⟩ := Option.ite_none_right_eq_some.1 h
          exact Option.some.inj hn ▸ .back hl
        · split at h
          · next hl => exact .char hl h
          · next hl => exact Option.some.inj h ▸ .single hl fun hp => hs ⟨hp, hl⟩
        · simp at h
  · intro h
    cases h with
    | tripleDouble hd => simp [literalLength?, hd]
    | tripleSingle hl hs =>
      obtain ⟨rest, rfl⟩ := hs
      simp [literalLength?, hl, CodeFolding.tripleSingle, CodeFolding.tripleDouble]
    | double hd => simp [literalLength?, hd, CodeFolding.tripleSingle]
    | back hl =>
      simp [literalLength?, hl, CodeFolding.tripleSingle, CodeFolding.tripleDouble]
    | char hl hn =>
      simp [literalLength?, hl, hn, CodeFolding.tripleDouble]
    | single hl hs => simp [literalLength?, hl, hs, CodeFolding.tripleDouble]

theorem hasPiece_literalLength? {t : Text} {n : Nat} (h : lang.literalLength? t = some n) :
    t.HasPiece n := by
  cases literalLength?_eq_some_iff.1 h with
  | tripleDouble hd => exact Text.hasPiece_through hd (by decide) rfl (by decide)
  | tripleSingle _ hs => exact Text.hasPiece_through hs (by decide) rfl (by decide)
  | @double rest _ => exact hasPiece_quotedLength false rest (by decide)
  | @back rest _ => exact hasPiece_quotedLength true rest (by decide)
  | char _ hn => exact hasPiece_charLength? hn
  | @single rest _ _ => exact hasPiece_quotedLength false rest (by decide)

theorem hasPiece_blockLength? {t : Text} {n : Nat} (h : lang.blockLength? t = some n) :
    t.HasPiece n := by
  obtain ⟨-, hopening, rfl⟩ := blockLength?_eq_some_iff.1 h
  exact Text.hasPiece_through hopening (by decide) rfl (by decide)

/-! ## The token in front of a text -/

/-- Whether a text begins with a comment that runs to the end of its line. -/
def beginsLineComment (lang : Language) (t : Text) : Bool := lang.comments.line.any (·.isPrefixOf t)

/-- The text begins with a token of the given kind and length. A token is looked for only where
the tests in front of its own have failed. -/
inductive BeginsWith (lang : Language) : Text → TokenKind → Nat → Prop where
  | newline (rest : Text) : BeginsWith lang ('\n' :: rest) .newline 1
  | blank {c : Char} (rest : Text) : c ≠ '\n' → isBlank c = true →
      BeginsWith lang (c :: rest) .blank 1
  | lineComment {c : Char} {rest : Text} : isBlank c = false →
      lang.beginsLineComment (c :: rest) = true →
      BeginsWith lang (c :: rest) .lineComment ((c :: rest).takeWhile (· != '\n')).length
  | blockComment {c : Char} {rest : Text} {n : Nat} : isBlank c = false →
      lang.beginsLineComment (c :: rest) = false → lang.blockLength? (c :: rest) = some n →
      BeginsWith lang (c :: rest) .blockComment n
  | literal {c : Char} {rest : Text} {n : Nat} : isBlank c = false →
      lang.beginsLineComment (c :: rest) = false → lang.blockLength? (c :: rest) = none →
      lang.literalLength? (c :: rest) = some n → BeginsWith lang (c :: rest) .literal n
  | code {c : Char} {rest : Text} : isBlank c = false →
      lang.beginsLineComment (c :: rest) = false → lang.blockLength? (c :: rest) = none →
      lang.literalLength? (c :: rest) = none → BeginsWith lang (c :: rest) .code 1

theorem ne_feed_of_isBlank {c : Char} (h : isBlank c = false) : c ≠ '\n' := by
  rintro rfl
  exact absurd h (by decide)

theorem tokenAt_of_beginsWith {t : Text} {kind : TokenKind} {n : Nat}
    (h : lang.BeginsWith t kind n) : lang.tokenAt t = (kind, n) := by
  cases h with
  | newline rest => exact tokenAt_newline rest
  | blank rest hfeed hblank => simp [tokenAt, hfeed, hblank]
  | lineComment hink hline =>
    rw [beginsLineComment] at hline
    simp [tokenAt, ne_feed_of_isBlank hink, hink, hline]
  | blockComment hink hline hblock =>
    rw [beginsLineComment] at hline
    simp [tokenAt, ne_feed_of_isBlank hink, hink, hline, hblock]
  | literal hink hline hblock hliteral =>
    rw [beginsLineComment] at hline
    simp [tokenAt, ne_feed_of_isBlank hink, hink, hline, hblock, hliteral]
  | code hink hline hblock hliteral =>
    rw [beginsLineComment] at hline
    simp [tokenAt, ne_feed_of_isBlank hink, hink, hline, hblock, hliteral]

/-- **A text begins with the token that the lexer takes.** -/
theorem beginsWith_tokenAt (lang : Language) (c : Char) (rest : Text) :
    lang.BeginsWith (c :: rest) (lang.tokenAt (c :: rest)).1 (lang.tokenAt (c :: rest)).2 := by
  have hexists : ∃ kind n, lang.BeginsWith (c :: rest) kind n := by
    by_cases hfeed : c = '\n'
    · exact hfeed ▸ ⟨_, _, .newline rest⟩
    cases hblank : isBlank c with
    | true => exact ⟨_, _, .blank rest hfeed hblank⟩
    | false =>
      cases hline : lang.beginsLineComment (c :: rest) with
      | true => exact ⟨_, _, .lineComment hblank hline⟩
      | false =>
        cases hblock : lang.blockLength? (c :: rest) with
        | some n => exact ⟨_, n, .blockComment hblank hline hblock⟩
        | none =>
          cases hliteral : lang.literalLength? (c :: rest) with
          | some n => exact ⟨_, n, .literal hblank hline hblock hliteral⟩
          | none => exact ⟨_, _, .code hblank hline hblock hliteral⟩
  obtain ⟨kind, n, h⟩ := hexists
  rw [tokenAt_of_beginsWith h]
  exact h

/-- A text splits behind its first token, and a token that may hold blanks in front of a line feed
ends in ink or with its line. -/
theorem BeginsWith.exists_split {t : Text} {kind : TokenKind} {n : Nat}
    (h : lang.BeginsWith t kind n) : ∃ a b, t = a ++ b ∧ a ≠ [] ∧ a.length = n ∧
      (kind = .blockComment ∨ kind = .literal → Text.EndsInInk a b) := by
  cases h with
  | newline rest => exact ⟨['\n'], rest, rfl, by simp, rfl, by simp⟩
  | @blank c rest => exact ⟨[c], rest, rfl, by simp, rfl, by simp⟩
  | @lineComment c rest hink hline =>
    refine ⟨(c :: rest).takeWhile (· != '\n'), (c :: rest).dropWhile (· != '\n'), ?_, ?_, rfl,
      by simp⟩
    · exact List.takeWhile_append_dropWhile.symm
    · simp [ne_feed_of_isBlank hink]
  | blockComment _ _ hblock =>
    obtain ⟨a, b, ht, hne, hlength, hend⟩ := hasPiece_blockLength? hblock
    exact ⟨a, b, ht, hne, hlength, fun _ => hend⟩
  | literal _ _ _ hliteral =>
    obtain ⟨a, b, ht, hne, hlength, hend⟩ := hasPiece_literalLength? hliteral
    exact ⟨a, b, ht, hne, hlength, fun _ => hend⟩
  | @code c rest => exact ⟨[c], rest, rfl, by simp, rfl, by simp⟩

theorem exists_beginsWith (lang : Language) {t : Text} (h : t ≠ []) :
    ∃ a b kind, t = a ++ b ∧ a ≠ [] ∧ lang.BeginsWith (a ++ b) kind a.length := by
  obtain ⟨c, rest, rfl⟩ := List.exists_cons_of_ne_nil h
  have hbegins := beginsWith_tokenAt lang c rest
  obtain ⟨a, b, hab, hne, hlength, -⟩ := hbegins.exists_split
  rw [← hlength, hab] at hbegins
  exact ⟨a, b, _, hab, hne, hbegins⟩

/-- **The tokens of a text are its first token and the tokens of what is behind it.** -/
theorem tokens_append {a b : Text} {kind : TokenKind} (h : lang.BeginsWith (a ++ b) kind a.length) :
    lang.tokens (a ++ b) = ⟨kind, a⟩ :: lang.tokens b := by
  obtain ⟨_, _, _, hne, hlength, _⟩ := h.exists_split
  cases a with
  | nil => exact absurd (List.length_eq_zero_iff.1 hlength) hne
  | cons c a =>
    rw [List.cons_append, tokens_cons, ← List.cons_append, tokenAt_of_beginsWith h]
    simp

theorem beginsWith_of_append {t : Text} {ks ls : List Token} {k : Token}
    (h : lang.tokens t = ks ++ k :: ls) :
    lang.BeginsWith (k.text ++ ls.flatMap Token.text) k.kind k.text.length := by
  obtain ⟨c, rest, htext, hkind, hk⟩ := tokenAt_of_append h
  have hbegins := beginsWith_tokenAt lang c rest
  obtain ⟨a, b, hab, hne, hlength, -⟩ := hbegins.exists_split
  have hka : k.text = a := by
    cases a with
    | nil => exact absurd rfl hne
    | cons d a =>
      obtain ⟨rfl, rfl⟩ := List.cons.inj hab
      rw [hk, ← hlength]
      simp
  rw [htext, hkind, hka, hlength]
  exact hbegins

/-- **A comment over several lines or a literal ends in ink or with its line.** -/
theorem endsInInk_of_append {t : Text} {ks ls : List Token} {k : Token}
    (h : lang.tokens t = ks ++ k :: ls) (hkind : k.kind = .blockComment ∨ k.kind = .literal) :
    Text.EndsInInk k.text (ls.flatMap Token.text) := by
  obtain ⟨a, b, hab, -, hlength, hend⟩ := (beginsWith_of_append h).exists_split
  obtain ⟨rfl, rfl⟩ := List.append_inj hab hlength.symm
  exact hend hkind

end Language

end CodeFolding
