import CodeFolding.Proofs.Text.Returns
import CodeFolding.Proofs.Token.Extent
/-!
# Tokens and the two ways to end a line

A carriage return in front of a line feed is a blank, or the last character of a comment or a
literal that ends in front of the line feed. There is one exception: a backslash at the end of a
line takes the line feed into a literal, and of the two characters it takes only the return. Main
statement: if no literal goes on this way, the tokens of a text are those of the text with returns
up to these returns (`returned_tokens`).
-/
namespace CodeFolding

/-- Whether a token is a string in double quotes that goes on behind the end of a line, because a
backslash takes the line feed. -/
def Token.isContinued (k : Token) : Bool :=
  k.kind == .literal && k.text.head? == some '"' && !tripleDouble.isPrefixOf k.text &&
    k.text.contains '\n'

/-- A length in the text with returns measures the piece `a` in front of `b`, or `a` with the return
of the line feed that `b` begins with. -/
def Text.EndsAlike (a b : Text) (n : Nat) : Prop :=
  n = (withReturns a).length ∨ b.head? = some '\n' ∧ n = (withReturns a).length + 1

theorem Text.EndsAlike.append {a b : Text} {n : Nat} (h : EndsAlike a b n) (front : Text) :
    EndsAlike (front ++ a) b ((withReturns front).length + n) := by
  rw [EndsAlike, withReturns_append, List.length_append]
  rcases h with rfl | ⟨hb, rfl⟩
  · exact Or.inl rfl
  · exact Or.inr ⟨hb, (Nat.add_assoc ..).symm⟩

/-! ## Measures -/

/-- Where no mark begins, none begins with the return either. -/
theorem Text.lengthThrough_withReturns_cons {mark rest : Text} {c : Char} (hfeed : '\n' ∉ mark)
    (hreturn : mark.getLast? ≠ some '\r') (h : ¬ mark <+: c :: rest) (n : Nat) :
    lengthThrough mark (withReturns (c :: rest)) n =
      lengthThrough mark (withReturns rest) (n + (withReturns [c]).length) := by
  rw [← prefix_withReturns_iff hfeed hreturn] at h
  by_cases hc : c = '\n'
  · have hbehind : ¬ mark <+: '\n' :: withReturns rest := by
      rw [← List.isPrefixOf_iff_prefix, isPrefixOf_feed hfeed, List.isEmpty_iff]
      rintro rfl
      exact h List.nil_prefix
    rw [hc, withReturns_feed] at h ⊢
    rw [lengthThrough_of_not_begins h, lengthThrough_of_not_begins hbehind]
    rfl
  · rw [withReturns_cons hc] at h ⊢
    rw [lengthThrough_of_not_begins h, withReturns_cons hc]
    rfl

theorem Text.lengthThrough_withReturns {mark : Text} (hfeed : '\n' ∉ mark)
    (hreturn : mark.getLast? ≠ some '\r') (t : Text) (n : Nat) :
    ∃ a b, t = a ++ b ∧ lengthThrough mark t n = n + a.length ∧
      ∀ m, lengthThrough mark (withReturns t) m = m + (withReturns a).length := by
  induction t generalizing n with
  | nil => exact ⟨[], [], rfl, rfl, fun m => rfl⟩
  | cons c rest ih =>
    by_cases hp : mark <+: c :: rest
    · obtain ⟨b, hb⟩ := hp
      refine ⟨mark, b, hb.symm, lengthThrough_of_begins ⟨b, hb⟩ n, fun m => ?_⟩
      rw [lengthThrough_of_begins ((prefix_withReturns_iff hfeed hreturn).2 ⟨b, hb⟩),
        withReturns_of_not_mem hfeed]
    · obtain ⟨a, b, hsplit, hlength, hreturns⟩ := ih (n + 1)
      refine ⟨c :: a, b, by rw [hsplit, List.cons_append], ?_, fun m => ?_⟩
      · rw [lengthThrough_of_not_begins hp, hlength, List.length_cons]
        omega
      · rw [lengthThrough_withReturns_cons hfeed hreturn hp, hreturns, Nat.add_assoc,
          ← List.length_append, ← withReturns_append, List.singleton_append]

/-- What begins with an opening and runs through a mark does so in both texts. -/
theorem Text.through_withReturns {opening mark a b : Text} (hopening : opening <+: a ++ b)
    (hopenfeed : '\n' ∉ opening) (hfeed : '\n' ∉ mark) (hreturn : mark.getLast? ≠ some '\r')
    (h : a.length = lengthThrough mark ((a ++ b).drop opening.length) opening.length) :
    lengthThrough mark ((withReturns (a ++ b)).drop opening.length) opening.length =
      (withReturns a).length := by
  obtain ⟨rest, hrest⟩ := hopening
  obtain ⟨inner, behind, rfl, hlength, hreturns⟩ :=
    lengthThrough_withReturns hfeed hreturn rest opening.length
  rw [← hrest, List.drop_left, hlength, ← List.length_append] at h
  rw [← List.append_assoc] at hrest
  obtain ⟨rfl, -⟩ := List.append_inj hrest h.symm
  rw [← hrest, List.append_assoc, withReturns_append, withReturns_of_not_mem hopenfeed,
    List.drop_left, hreturns, withReturns_append, withReturns_of_not_mem hopenfeed,
    List.length_append]

theorem quotedFrom_pass {quote c : Char} {multiline : Bool} (hslash : c ≠ '\\') (hquote : c ≠ quote)
    (hfeed : c ≠ '\n' ∨ multiline = true) (rest : Text) (n : Nat) :
    quotedFrom quote multiline false (c :: rest) n =
      quotedFrom quote multiline false rest (n + 1) := by
  rw [quotedFrom, if_neg hslash, if_neg hquote, if_neg]
  rcases hfeed with h | h <;> simp [h]

/-- The rest of a quoted literal ends alike in both texts, if it holds no line feed or may. -/
def QuotedAlike (quote : Char) (multiline escaped : Bool) (t : Text) (n : Nat) : Prop :=
  ∃ a b, t = a ++ b ∧ quotedFrom quote multiline escaped t n = n + a.length ∧
    (multiline = true ∨ '\n' ∉ a → ∀ m, ∃ k, Text.EndsAlike a b k ∧
      quotedFrom quote multiline escaped (Text.withReturns t) m = m + k)

/-- One character further in the text is one or two further in the text with returns. -/
theorem QuotedAlike.cons {quote c : Char} {multiline escaped escaped' : Bool} {rest : Text}
    {n : Nat} (h : QuotedAlike quote multiline escaped' rest (n + 1))
    (hstep : quotedFrom quote multiline escaped (c :: rest) n =
      quotedFrom quote multiline escaped' rest (n + 1))
    (hreturns : multiline = true ∨ c ≠ '\n' → ∀ m,
      quotedFrom quote multiline escaped (Text.withReturns (c :: rest)) m =
        quotedFrom quote multiline escaped' (Text.withReturns rest)
          (m + (Text.withReturns [c]).length)) :
    QuotedAlike quote multiline escaped (c :: rest) n := by
  obtain ⟨a, b, rfl, hlength, hend⟩ := h
  refine ⟨c :: a, b, rfl, ?_, fun hcond m => ?_⟩
  · rw [hstep, hlength, List.length_cons]
    omega
  · have hc : multiline = true ∨ c ≠ '\n' := hcond.imp id fun h hc => h (hc ▸ List.mem_cons_self)
    have ha : multiline = true ∨ '\n' ∉ a := hcond.imp id fun h ha => h (List.mem_cons_of_mem c ha)
    obtain ⟨k, hk, hquoted⟩ := hend ha (m + (Text.withReturns [c]).length)
    refine ⟨(Text.withReturns [c]).length + k, hk.append [c], ?_⟩
    rw [hreturns hc m, hquoted, Nat.add_assoc]

theorem quotedAlike {quote : Char} (hfeed : quote ≠ '\n') (hreturn : quote ≠ '\r')
    (multiline escaped : Bool) (t : Text) (n : Nat) :
    QuotedAlike quote multiline escaped t n := by
  induction t generalizing escaped n with
  | nil =>
    refine ⟨[], [], rfl, ?_, fun _ m => ⟨0, Or.inl rfl, ?_⟩⟩
    · cases escaped <;> rfl
    · cases escaped <;> rfl
  | cons c rest ih =>
    cases escaped with
    | true =>
      refine (ih false (n + 1)).cons rfl fun hc m => ?_
      by_cases hcfeed : c = '\n'
      · have hmultiline : multiline = true := hc.resolve_right (not_not_intro hcfeed)
        subst hcfeed
        exact quotedFrom_pass (by decide) hfeed.symm (Or.inr hmultiline) _ _
      · rw [Text.withReturns_cons hcfeed, Text.withReturns_cons hcfeed]
        rfl
    | false =>
      by_cases hslash : c = '\\'
      · subst hslash
        exact (ih true (n + 1)).cons rfl fun _ m => rfl
      by_cases hquote : c = quote
      · subst hquote
        have hend : ∀ t n, quotedFrom c multiline false (c :: t) n = n + 1 := fun t n => by
          rw [quotedFrom, if_neg hslash, if_pos rfl]
        refine ⟨[c], rest, rfl, hend rest n, fun _ m => ⟨1, Or.inl ?_, ?_⟩⟩
        · rw [Text.withReturns_cons hfeed]
          rfl
        · rw [Text.withReturns_cons hfeed, hend]
      by_cases hcfeed : c = '\n'
      · subst hcfeed
        cases multiline with
        | true =>
          refine (ih false (n + 1)).cons (quotedFrom_pass hslash hquote (Or.inr rfl) rest n)
            fun _ m => ?_
          rw [Text.withReturns_feed, quotedFrom_pass (by decide) hreturn.symm (Or.inr rfl),
            quotedFrom_pass hslash hquote (Or.inr rfl)]
          rfl
        | false =>
          -- the literal ends in front of the line feed and takes its return
          have hend : ∀ t n, quotedFrom quote false false ('\n' :: t) n = n := fun t n => by
            rw [quotedFrom, if_neg hslash, if_neg hquote]
            rfl
          refine ⟨[], '\n' :: rest, rfl, hend rest n, fun _ m => ⟨1, Or.inr ⟨rfl, rfl⟩, ?_⟩⟩
          rw [Text.withReturns_feed, quotedFrom_pass (by decide) hreturn.symm (Or.inl (by decide)),
            hend]
      · refine (ih false (n + 1)).cons (quotedFrom_pass hslash hquote (Or.inl hcfeed) rest n)
          fun _ m => ?_
        rw [Text.withReturns_cons hcfeed, Text.withReturns_cons hcfeed,
          quotedFrom_pass hslash hquote (Or.inl hcfeed)]
        rfl

theorem quotedLength_withReturns {quote : Char} (hfeed : quote ≠ '\n') (hreturn : quote ≠ '\r')
    {multiline : Bool} {rest a b : Text} (ht : a ++ b = quote :: rest)
    (h : a.length = quotedLength quote multiline (quote :: rest))
    (hcond : multiline = true ∨ '\n' ∉ a) :
    Text.EndsAlike a b (quotedLength quote multiline (quote :: Text.withReturns rest)) := by
  obtain ⟨inner, behind, rfl, hlength, hend⟩ := quotedAlike hfeed hreturn multiline false rest 1
  rw [quotedLength, List.drop_succ_cons, List.drop_zero, hlength, Nat.add_comm,
    ← List.length_cons] at h
  obtain ⟨rfl, rfl⟩ := List.append_inj ht h
  obtain ⟨k, hk, hquoted⟩ :=
    hend (hcond.imp id fun h hmem => h (List.mem_cons_of_mem _ hmem)) 1
  rw [quotedLength, List.drop_succ_cons, List.drop_zero, hquoted]
  have hquote : (Text.withReturns [quote]).length = 1 := by
    rw [Text.withReturns_cons hfeed]
    rfl
  exact hquote ▸ hk.append [quote]

theorem charLength?_withReturns (rest : Text) :
    charLength? ('\'' :: Text.withReturns rest) = charLength? ('\'' :: rest) := by
  refine Option.ext fun n => ?_
  rw [charLength?_eq_some_iff_body, charLength?_eq_some_iff_body]
  refine exists_congr fun body => and_congr_left fun ⟨hbody, _⟩ => ?_
  refine Text.prefix_withReturns_iff hbody.not_mem ?_
  rw [hbody.getLast?_eq]
  decide

namespace Language

theorem blockLength?_withReturns {a b : Text} (h : braces.blockLength? (a ++ b) = some a.length) :
    braces.blockLength? (Text.withReturns (a ++ b)) = some (Text.withReturns a).length := by
  obtain ⟨hl, hopening, hlength⟩ := blockLength?_eq_some_iff.1 h
  refine blockLength?_eq_some_iff.2 ⟨hl, (Text.prefix_withReturns_iff (by decide) (by decide)).2
    hopening, ?_⟩
  exact (Text.through_withReturns hopening (by decide) (by decide) (by decide) hlength).symm

theorem blockLength?_withReturns_eq_none {t : Text} (h : braces.blockLength? t = none) :
    braces.blockLength? (Text.withReturns t) = none := by
  rw [Option.eq_none_iff_forall_ne_some] at h ⊢
  intro n hn
  obtain ⟨hl, hopening, -⟩ := blockLength?_eq_some_iff.1 hn
  rw [Text.prefix_withReturns_iff (by decide) (by decide)] at hopening
  exact h _ (blockLength?_eq_some_iff.2 ⟨hl, hopening, rfl⟩)

theorem beginsLiteral_withReturns {a b : Text} (h : braces.BeginsLiteral (a ++ b) a.length)
    (hcontinued : Token.isContinued ⟨.literal, a⟩ = false) :
    ∃ n, braces.BeginsLiteral (Text.withReturns (a ++ b)) n ∧ Text.EndsAlike a b n := by
  generalize ht : a ++ b = t at h
  generalize hn : a.length = n at h
  have hne : a ≠ [] := by
    rintro rfl
    obtain ⟨_, _, -, hne, hlength, -⟩ := hasPiece_literalLength? (literalLength?_eq_some_iff.2 h)
    exact hne (List.length_eq_zero_iff.1 (hlength.trans hn.symm))
  cases h with
  | tripleDouble hd =>
    subst ht
    have hd' := (Text.prefix_withReturns_iff (by decide) (by decide)).2 hd
    exact ⟨_, .tripleDouble hd',
      Or.inl (Text.through_withReturns hd (by decide) (by decide) (by decide) hn)⟩
  | tripleSingle hl => exact absurd rfl hl
  | @double rest hd =>
    rw [Text.withReturns_cons (by decide)]
    have hd' : ¬ tripleDouble <+: '"' :: Text.withReturns rest := by
      rwa [← Text.withReturns_cons (by decide), Text.prefix_withReturns_iff (by decide) (by decide)]
    have hfeed : '\n' ∉ a := by
      intro hmem
      obtain ⟨c, a, rfl⟩ := List.exists_cons_of_ne_nil hne
      obtain ⟨rfl, rfl⟩ := List.cons.inj ht
      have hbegin : ¬ CodeFolding.tripleDouble <+: '"' :: a := fun hp =>
        hd (hp.trans (List.prefix_append ('"' :: a) b))
      simp [Token.isContinued, hbegin, List.mem_of_ne_of_mem _ hmem] at hcontinued
    exact ⟨_, .double hd', quotedLength_withReturns (by decide) (by decide) ht hn (Or.inr hfeed)⟩
  | @back rest hl =>
    rw [Text.withReturns_cons (by decide)]
    exact ⟨_, .back hl, quotedLength_withReturns (by decide) (by decide) ht hn (Or.inl rfl)⟩
  | @char rest _ hl hc =>
    rw [Text.withReturns_cons (by decide)]
    obtain ⟨body, ⟨behind, rfl⟩, hbody, rfl⟩ := charLength?_eq_some_iff_body.1 hc
    rw [← List.cons_append] at ht
    obtain ⟨rfl, -⟩ := List.append_inj ht hn
    refine ⟨_, .char hl (by rwa [charLength?_withReturns]), Or.inl ?_⟩
    rw [Text.withReturns_of_not_mem (by simp [hbody.not_mem]), List.length_cons]
  | single hl => exact absurd rfl hl

/-- No literal begins in the text with returns that does not begin in the text. -/
theorem beginsLiteral_of_withReturns {t : Text} {n : Nat}
    (h : braces.BeginsLiteral (Text.withReturns t) n) : ∃ n, braces.BeginsLiteral t n := by
  generalize ht : Text.withReturns t = u at h
  cases h with
  | tripleDouble hd =>
    rw [← ht, Text.prefix_withReturns_iff (by decide) (by decide)] at hd
    exact ⟨_, .tripleDouble hd⟩
  | tripleSingle hl => exact absurd rfl hl
  | double hd =>
    rw [← ht, Text.prefix_withReturns_iff (by decide) (by decide)] at hd
    obtain ⟨rest, rfl, -⟩ := Text.exists_of_withReturns_eq_cons ht (by decide)
    exact ⟨_, .double hd⟩
  | back hl =>
    obtain ⟨rest, rfl, -⟩ := Text.exists_of_withReturns_eq_cons ht (by decide)
    exact ⟨_, .back hl⟩
  | char hl hc =>
    obtain ⟨rest, rfl, rfl⟩ := Text.exists_of_withReturns_eq_cons ht (by decide)
    rw [charLength?_withReturns] at hc
    exact ⟨_, .char hl hc⟩
  | single hl => exact absurd rfl hl

theorem literalLength?_withReturns_eq_none {t : Text} (h : braces.literalLength? t = none) :
    braces.literalLength? (Text.withReturns t) = none := by
  rw [Option.eq_none_iff_forall_ne_some] at h ⊢
  intro n hn
  obtain ⟨m, hm⟩ := beginsLiteral_of_withReturns (literalLength?_eq_some_iff.1 hn)
  exact h m (literalLength?_eq_some_iff.2 hm)

theorem beginsLineComment_withReturns (t : Text) :
    braces.beginsLineComment (Text.withReturns t) = braces.beginsLineComment t := by
  have hmark : ['/', '/'].isPrefixOf (Text.withReturns t) = ['/', '/'].isPrefixOf t :=
    Text.isPrefixOf_withReturns (by decide) (by decide)
  simp only [beginsLineComment, comments, List.any_cons, List.any_nil, hmark]

/-! ## Tokens -/

/-- A comment up to the end of its line takes the return of the line feed. -/
theorem endsAlike_takeWhile {a b : Text} (hfeed : '\n' ∉ a)
    (hb : b = [] ∨ b.head? = some '\n') :
    Text.EndsAlike a b ((Text.withReturns (a ++ b)).takeWhile (· != '\n')).length := by
  rw [Text.EndsAlike, Text.withReturns_append, Text.withReturns_of_not_mem hfeed]
  rcases hb with rfl | hb
  · rw [Text.withReturns_nil, Text.takeWhile_eq_of_split hfeed (Or.inl rfl)]
    exact Or.inl rfl
  · obtain ⟨b, rfl⟩ := List.head?_eq_some_iff.1 hb
    rw [Text.withReturns_feed, List.append_cons,
      Text.takeWhile_eq_of_split (by simp [hfeed]) (Or.inr rfl), List.length_append]
    exact Or.inr ⟨rfl, rfl⟩

theorem eq_singleton_of_length {a b rest : Text} {c : Char} (h : a ++ b = c :: rest)
    (hlength : a.length = 1) : a = [c] :=
  (List.append_inj (show a ++ b = [c] ++ rest from h) hlength).1

/-- A token that is no line feed ends alike in both texts. Only a comment up to the end of its line
and a literal take the return of the line feed behind them. -/
theorem beginsWith_withReturns {a b : Text} {kind : TokenKind}
    (h : braces.BeginsWith (a ++ b) kind a.length) (hkind : kind ≠ .newline)
    (hcontinued : Token.isContinued ⟨kind, a⟩ = false) :
    ∃ n, braces.BeginsWith (Text.withReturns (a ++ b)) kind n ∧ Text.EndsAlike a b n ∧
      (n = (Text.withReturns a).length ∨ kind = .lineComment ∨ kind = .literal) := by
  generalize ht : a ++ b = t at h
  generalize hn : a.length = n at h
  have hsingle : ∀ {c rest}, a ++ b = c :: rest → c ≠ '\n' → a.length = 1 →
      1 = (Text.withReturns a).length := by
    intro c rest ht hc hn
    rw [eq_singleton_of_length ht hn, Text.withReturns_cons hc]
    rfl
  cases h with
  | newline => exact absurd rfl hkind
  | @blank c rest hfeed hblank =>
    have hlength := hsingle ht hfeed hn
    rw [Text.withReturns_cons hfeed]
    exact ⟨1, .blank _ hfeed hblank, Or.inl hlength, Or.inl hlength⟩
  | @lineComment c rest hink hline =>
    obtain ⟨ha, hb⟩ := List.append_inj (ht.trans List.takeWhile_append_dropWhile.symm) hn
    have hfeed : '\n' ∉ a := ha ▸ Text.not_mem_takeWhile (c :: rest)
    have hend := endsAlike_takeWhile hfeed (hb ▸ Text.dropWhile_eq_nil_or_head? '\n' (c :: rest))
    rw [← beginsLineComment_withReturns] at hline
    rw [ht, Text.withReturns_cons (ne_feed_of_isBlank hink)] at hend
    rw [Text.withReturns_cons (ne_feed_of_isBlank hink)] at hline ⊢
    exact ⟨_, .lineComment hink hline, hend, Or.inr (Or.inl rfl)⟩
  | @blockComment c rest _ hink hline hblock =>
    subst hn
    have hblock' := blockLength?_withReturns (ht ▸ hblock)
    rw [← beginsLineComment_withReturns] at hline
    rw [ht, Text.withReturns_cons (ne_feed_of_isBlank hink)] at hblock'
    rw [Text.withReturns_cons (ne_feed_of_isBlank hink)] at hline ⊢
    exact ⟨_, .blockComment hink hline hblock', Or.inl rfl, Or.inl rfl⟩
  | @literal c rest _ hink hline hblock hliteral =>
    subst hn
    obtain ⟨n, hn, hend⟩ := beginsLiteral_withReturns (b := b)
      (ht ▸ literalLength?_eq_some_iff.1 hliteral) hcontinued
    have hblock' := blockLength?_withReturns_eq_none hblock
    rw [← beginsLineComment_withReturns] at hline
    rw [ht, ← literalLength?_eq_some_iff, Text.withReturns_cons (ne_feed_of_isBlank hink)] at hn
    rw [Text.withReturns_cons (ne_feed_of_isBlank hink)] at hline hblock' ⊢
    exact ⟨n, .literal hink hline hblock' hn, hend, Or.inr (Or.inr rfl)⟩
  | @code c rest hink hline hblock hliteral =>
    have hlength := hsingle ht (ne_feed_of_isBlank hink) hn
    have hblock' := blockLength?_withReturns_eq_none hblock
    have hliteral' := literalLength?_withReturns_eq_none hliteral
    rw [← beginsLineComment_withReturns] at hline
    rw [Text.withReturns_cons (ne_feed_of_isBlank hink)] at hline hblock' hliteral' ⊢
    exact ⟨1, .code hink hline hblock' hliteral', Or.inl hlength, Or.inl hlength⟩

end Language

/-! ## The tokens of both texts -/

/-- The second list of tokens is the first one, read from the text with returns. The return in
front of a line feed is a blank of its own, or it belongs to the token in front of it. -/
inductive Returned : List Token → List Token → Prop where
  | nil : Returned [] []
  | feed {ks ks' : List Token} : Returned ks ks' →
      Returned (⟨.newline, ['\n']⟩ :: ks) (⟨.blank, ['\r']⟩ :: ⟨.newline, ['\n']⟩ :: ks')
  | joined {k : Token} {ks ks' : List Token} :
      k.kind = .lineComment ∧ '\n' ∉ k.text ∨ k.kind = .literal → Returned ks ks' →
      Returned (k :: ⟨.newline, ['\n']⟩ :: ks)
        (⟨k.kind, Text.withReturns k.text ++ ['\r']⟩ :: ⟨.newline, ['\n']⟩ :: ks')
  | same {k : Token} {ks ks' : List Token} :
      '\n' ∉ k.text ∨ k.kind = .blockComment ∨ k.kind = .literal → Returned ks ks' →
      Returned (k :: ks) (⟨k.kind, Text.withReturns k.text⟩ :: ks')

namespace Language

theorem not_mem_of_beginsWith {a b : Text} {kind : TokenKind}
    (h : braces.BeginsWith (a ++ b) kind a.length) (hkind : kind ≠ .newline) :
    '\n' ∉ a ∨ kind = .blockComment ∨ kind = .literal := by
  generalize ht : a ++ b = t at h
  generalize hn : a.length = n at h
  cases h with
  | newline => exact absurd rfl hkind
  | blank rest hfeed =>
    rw [eq_singleton_of_length ht hn]
    exact Or.inl (by simpa using Ne.symm hfeed)
  | @lineComment c rest =>
    obtain ⟨rfl, -⟩ := List.append_inj (ht.trans List.takeWhile_append_dropWhile.symm) hn
    exact Or.inl (Text.not_mem_takeWhile (c :: rest))
  | blockComment => exact Or.inr (Or.inl rfl)
  | literal => exact Or.inr (Or.inr rfl)
  | code hink =>
    rw [eq_singleton_of_length ht hn]
    exact Or.inl (by simpa using Ne.symm (ne_feed_of_isBlank hink))

theorem eq_feed_of_beginsWith {a b : Text} (h : braces.BeginsWith (a ++ b) .newline a.length) :
    a = ['\n'] := by
  generalize ht : a ++ b = t at h
  generalize hn : a.length = n at h
  cases h with
  | newline => exact eq_singleton_of_length ht hn

theorem tokens_feed (t : Text) :
    braces.tokens ('\n' :: t) = ⟨.newline, ['\n']⟩ :: braces.tokens t :=
  tokens_append (a := ['\n']) (.newline t)

theorem tokens_return (t : Text) :
    braces.tokens ('\r' :: t) = ⟨.blank, ['\r']⟩ :: braces.tokens t :=
  tokens_append (a := ['\r']) (.blank t (by decide) (by decide))

/-- **The tokens of the text with returns are those of the text, up to the returns.** -/
theorem returned_tokens {t : Text} (h : ∀ k ∈ braces.tokens t, k.isContinued = false) :
    Returned (braces.tokens t) (braces.tokens (Text.withReturns t)) := by
  -- a token that takes a return is followed by the line feed, so two tokens may be read at once
  induction hn : t.length using Nat.strongRecOn generalizing t with
  | ind n ih =>
    subst hn
    cases t with
    | nil => exact .nil
    | cons c rest =>
      obtain ⟨a, b, kind, hab, hne, hbegins⟩ := exists_beginsWith braces (List.cons_ne_nil c rest)
      rw [hab] at h ih ⊢
      rw [tokens_append hbegins] at h ⊢
      rw [List.forall_mem_cons] at h
      have hpos := List.length_pos_iff.2 hne
      rw [List.length_append] at ih
      have hb := ih b.length (by omega) h.2 rfl
      by_cases hkind : kind = .newline
      · subst hkind
        obtain rfl := eq_feed_of_beginsWith hbegins
        rw [List.singleton_append, Text.withReturns_feed, tokens_return, tokens_feed]
        exact .feed hb
      obtain ⟨n, hbegins', hend, hjoined⟩ := beginsWith_withReturns hbegins hkind h.1
      have hrow := not_mem_of_beginsWith hbegins hkind
      rcases hend with rfl | ⟨hhead, rfl⟩
      · rw [Text.withReturns_append] at hbegins' ⊢
        rw [tokens_append hbegins']
        exact .same hrow hb
      · obtain ⟨b, rfl⟩ := List.head?_eq_some_iff.1 hhead
        rw [tokens_feed, List.forall_mem_cons] at h
        have hb := ih b.length (by rw [List.length_cons]; omega) h.2.2 rfl
        have hreturns : Text.withReturns (a ++ '\n' :: b) =
            (Text.withReturns a ++ ['\r']) ++ '\n' :: Text.withReturns b := by
          rw [Text.withReturns_append, Text.withReturns_feed, List.append_assoc,
            List.singleton_append]
        rw [hreturns] at hbegins' ⊢
        rw [← List.length_singleton (a := '\r'), ← List.length_append] at hbegins'
        rw [tokens_append hbegins', tokens_feed, tokens_feed]
        refine .joined ?_ hb
        rcases hjoined with hlength | rfl | rfl
        · omega
        · exact Or.inl ⟨rfl, hrow.resolve_right (by simp)⟩
        · exact Or.inr rfl

end Language

end CodeFolding
