import CodeFolding.Proofs.Token.Extent
/-!
# Tokens in front of a boundary

Whether a text begins with a token is a matter of the characters up to the end of that token, as
long as no longer token begins there. Main statement: two texts with a common front that are both
cut at its end are cut alike in front of it (`eq_of_common_front`).
-/
namespace CodeFolding

/-! ## Measures that look no further than they reach -/

/-- What is measured within a front is measured whatever is behind the front, unless the piece
reaches beyond it then. -/
def Text.IsLocal (f : Text → Option Nat) : Prop :=
  ∀ x u u' n, f (x ++ u) = some n → n ≤ x.length →
    ∃ n', f (x ++ u') = some n' ∧ (n' ≤ x.length → n' = n)

namespace Text

variable {x u u' : Text} {n : Nat}

theorem IsLocal.eq {f : Text → Option Nat} (hf : IsLocal f)
    (h : ∀ n, f (x ++ u) = some n → n ≤ x.length)
    (h' : ∀ n, f (x ++ u') = some n → n ≤ x.length) : f (x ++ u) = f (x ++ u') := by
  cases hn : f (x ++ u) with
  | some n =>
    obtain ⟨n', hn', heq⟩ := hf x u u' n hn (h n hn)
    rw [hn', heq (h' n' hn')]
  | none =>
    cases hn' : f (x ++ u') with
    | none => rfl
    | some n' =>
      obtain ⟨n, hsome, -⟩ := hf x u' u n' hn' (h' n' hn')
      rw [hn] at hsome
      cases hsome

theorem prefix_append_of_le {mark : Text} (h : mark <+: x ++ u) (hle : mark.length ≤ x.length)
    (u' : Text) : mark <+: x ++ u' :=
  (List.prefix_of_prefix_length_le h (List.prefix_append x u) hle).trans (List.prefix_append x u')

theorem lengthThrough_eq_of_le {mark : Text} (h : lengthThrough mark (x ++ u) n ≤ n + x.length)
    (h' : lengthThrough mark (x ++ u') n ≤ n + x.length) :
    lengthThrough mark (x ++ u) n = lengthThrough mark (x ++ u') n := by
  induction x generalizing n with
  | nil =>
    have hle := length_le_lengthThrough mark u n
    have hle' := length_le_lengthThrough mark u' n
    simp only [List.nil_append, List.length_nil] at h h' ⊢
    omega
  | cons c x ih =>
    by_cases hp : mark <+: c :: x ++ u
    · have hlength := lengthThrough_of_begins hp n
      have hp' := prefix_append_of_le hp (by omega) u'
      rw [hlength, lengthThrough_of_begins hp' n]
    · have hp' : ¬ mark <+: c :: x ++ u' := by
        intro hp'
        have hlength := lengthThrough_of_begins hp' n
        exact hp (prefix_append_of_le hp' (by omega) u)
      rw [List.cons_append] at h h' hp hp' ⊢
      rw [List.cons_append]
      rw [lengthThrough_of_not_begins hp] at h ⊢
      rw [lengthThrough_of_not_begins hp'] at h' ⊢
      rw [List.length_cons] at h h'
      exact ih (by omega) (by omega)

theorem through_eq_of_le {opening mark : Text} (hopening : opening <+: x ++ u)
    (h : lengthThrough mark ((x ++ u).drop opening.length) opening.length ≤ x.length)
    (u' : Text) :
    opening <+: x ++ u' ∧
      (lengthThrough mark ((x ++ u').drop opening.length) opening.length ≤ x.length →
        lengthThrough mark ((x ++ u').drop opening.length) opening.length =
          lengthThrough mark ((x ++ u).drop opening.length) opening.length) := by
  have hle := length_le_lengthThrough mark ((x ++ u).drop opening.length) opening.length
  have hlength : opening.length ≤ x.length := by omega
  refine ⟨prefix_append_of_le hopening hlength u', fun h' => ?_⟩
  rw [List.drop_append_of_le_length hlength] at h h' ⊢
  rw [List.drop_append_of_le_length hlength]
  have hrest : opening.length + (x.drop opening.length).length = x.length := by
    rw [List.length_drop]
    omega
  exact lengthThrough_eq_of_le (by omega) (by omega)

theorem length_takeWhile_eq_of_le {p : Char → Bool} (h : ((x ++ u).takeWhile p).length ≤ x.length)
    (h' : ((x ++ u').takeWhile p).length ≤ x.length) :
    ((x ++ u).takeWhile p).length = ((x ++ u').takeWhile p).length := by
  rw [List.takeWhile_append] at h h' ⊢
  rw [List.takeWhile_append]
  split
  · next hall =>
    rw [if_pos hall, List.length_append] at h h'
    rw [List.length_append, List.length_append]
    omega
  · rfl

end Text

theorem le_quotedFrom (quote : Char) (multiline escaped : Bool) (t : Text) (n : Nat) :
    n ≤ quotedFrom quote multiline escaped t n := by
  obtain ⟨a, b, -, hlength, -⟩ := exists_split_quotedFrom quote multiline escaped t n
  omega

theorem quotedFrom_eq_of_le {quote : Char} {multiline escaped : Bool} {x u u' : Text} {n : Nat}
    (h : quotedFrom quote multiline escaped (x ++ u) n ≤ n + x.length)
    (h' : quotedFrom quote multiline escaped (x ++ u') n ≤ n + x.length) :
    quotedFrom quote multiline escaped (x ++ u) n =
      quotedFrom quote multiline escaped (x ++ u') n := by
  induction x generalizing escaped n with
  | nil =>
    have hle := le_quotedFrom quote multiline escaped u n
    have hle' := le_quotedFrom quote multiline escaped u' n
    simp only [List.nil_append, List.length_nil] at h h' ⊢
    omega
  | cons c x ih =>
    have hnext : ∀ escaped', quotedFrom quote multiline escaped' (x ++ u) (n + 1) ≤
        n + (c :: x).length → quotedFrom quote multiline escaped' (x ++ u') (n + 1) ≤
        n + (c :: x).length → quotedFrom quote multiline escaped' (x ++ u) (n + 1) =
          quotedFrom quote multiline escaped' (x ++ u') (n + 1) := by
      intro escaped' h h'
      rw [List.length_cons] at h h'
      exact ih (by omega) (by omega)
    cases escaped with
    | true => exact hnext false h h'
    | false =>
      simp only [List.cons_append, quotedFrom] at h h' ⊢
      split
      · next hc =>
        rw [if_pos hc] at h h'
        exact hnext true h h'
      · next hc =>
        rw [if_neg hc] at h h'
        split
        · rfl
        · next hq =>
          rw [if_neg hq] at h h'
          split
          · rfl
          · next hfeed =>
            rw [if_neg hfeed] at h h'
            exact hnext false h h'

theorem quotedLength_eq_of_le {quote c : Char} {multiline : Bool} {x u u' : Text}
    (h : quotedLength quote multiline (c :: x ++ u) ≤ (c :: x).length)
    (h' : quotedLength quote multiline (c :: x ++ u') ≤ (c :: x).length) :
    quotedLength quote multiline (c :: x ++ u') = quotedLength quote multiline (c :: x ++ u) := by
  simp only [quotedLength, List.cons_append, List.drop_succ_cons, List.drop_zero,
    List.length_cons] at h h' ⊢
  exact quotedFrom_eq_of_le (by omega) (by omega)

theorem charLength?_append {x u u' : Text} {n : Nat}
    (h : charLength? ('\'' :: (x ++ u)) = some n) (hle : n ≤ ('\'' :: x).length) :
    charLength? ('\'' :: (x ++ u')) = some n := by
  rw [List.length_cons] at hle
  obtain ⟨body, hp, hbody, rfl⟩ := charLength?_eq_some_iff_body.1 h
  exact charLength?_eq_some_iff_body.2
    ⟨body, Text.prefix_append_of_le hp (by omega) u', hbody, rfl⟩

namespace Language

variable {lang : Language}

theorem isLocal_blockLength? (lang : Language) : Text.IsLocal lang.blockLength? := by
  intro x u u' n hn hle
  obtain ⟨hl, hopening, rfl⟩ := blockLength?_eq_some_iff.1 hn
  obtain ⟨hopening', heq⟩ := Text.through_eq_of_le hopening hle u'
  exact ⟨_, blockLength?_eq_some_iff.2 ⟨hl, hopening', rfl⟩, heq⟩

/-- What is measured behind a front that holds no character is no literal. -/
theorem ne_nil_of_literalLength? {x u : Text} {n : Nat} (h : lang.literalLength? (x ++ u) = some n)
    (hle : n ≤ x.length) : x ≠ [] := by
  rintro rfl
  obtain ⟨a, b, -, hne, rfl, -⟩ := hasPiece_literalLength? h
  exact hne (List.length_eq_zero_iff.1 (Nat.le_zero.1 hle))

/-- A quote that does not begin three of them within a front begins three of them only where these
reach beyond the front. -/
theorem lt_length_of_triple {triple x u u' : Text} (h : ¬ triple <+: x ++ u)
    (h' : triple <+: x ++ u') : x.length < triple.length :=
  Nat.lt_of_not_le fun hle => h (Text.prefix_append_of_le h' hle u)

theorem isLocal_literalLength? (lang : Language) : Text.IsLocal lang.literalLength? := by
  intro x u u' n hn hle
  have hne := ne_nil_of_literalLength? hn hle
  simp only [literalLength?_eq_some_iff] at hn ⊢
  generalize ht : x ++ u = t at hn
  cases hn with
  | tripleDouble hd =>
    subst ht
    obtain ⟨hd', heq⟩ := Text.through_eq_of_le hd hle u'
    exact ⟨_, .tripleDouble hd', heq⟩
  | tripleSingle hl hs =>
    subst ht
    obtain ⟨hs', heq⟩ := Text.through_eq_of_le hs hle u'
    exact ⟨_, .tripleSingle hl hs', heq⟩
  | double hd =>
    obtain ⟨c, x, rfl⟩ := List.exists_cons_of_ne_nil hne
    obtain ⟨rfl, rfl⟩ := List.cons.inj ht
    by_cases hd' : tripleDouble <+: '"' :: x ++ u'
    · refine ⟨_, .tripleDouble hd', fun h' => ?_⟩
      have hlt := lt_length_of_triple (x := '"' :: x) hd hd'
      have hthree := Text.length_le_lengthThrough tripleDouble (('"' :: x ++ u').drop 3) 3
      exact absurd (Nat.le_trans hthree h') (Nat.not_le.2 hlt)
    · exact ⟨_, .double hd', quotedLength_eq_of_le hle⟩
  | back hl =>
    obtain ⟨c, x, rfl⟩ := List.exists_cons_of_ne_nil hne
    obtain ⟨rfl, rfl⟩ := List.cons.inj ht
    exact ⟨_, .back hl, quotedLength_eq_of_le hle⟩
  | char hl hn =>
    obtain ⟨c, x, rfl⟩ := List.exists_cons_of_ne_nil hne
    obtain ⟨rfl, rfl⟩ := List.cons.inj ht
    exact ⟨n, .char hl (charLength?_append hn hle), fun _ => rfl⟩
  | single hl hs =>
    obtain ⟨c, x, rfl⟩ := List.exists_cons_of_ne_nil hne
    obtain ⟨rfl, rfl⟩ := List.cons.inj ht
    by_cases hs' : tripleSingle <+: '\'' :: x ++ u'
    · refine ⟨_, .tripleSingle hl hs', fun h' => ?_⟩
      have hlt := lt_length_of_triple (x := '\'' :: x) hs hs'
      have hthree := Text.length_le_lengthThrough tripleSingle (('\'' :: x ++ u').drop 3) 3
      exact absurd (Nat.le_trans hthree h') (Nat.not_le.2 hlt)
    · exact ⟨_, .single hl hs', quotedLength_eq_of_le hle⟩

/-- The length of the comment up to the end of its line that a text begins with. -/
def lineLength? (lang : Language) (t : Text) : Option Nat :=
  if lang.beginsLineComment t then some (t.takeWhile (· != '\n')).length else none

theorem lineLength?_eq_some_iff {t : Text} {n : Nat} :
    lang.lineLength? t = some n ↔ (∃ mark ∈ lang.comments.line, mark <+: t) ∧
      n = (t.takeWhile (· != '\n')).length := by
  simp [lineLength?, beginsLineComment, @eq_comm _ n]

theorem feed_not_mem_of_mem_line {mark : Text} (h : mark ∈ lang.comments.line) : '\n' ∉ mark := by
  cases lang <;> simp only [comments, List.mem_cons, List.not_mem_nil, or_false] at h
  · subst h
    decide
  · subst h
    decide
  · rcases h with rfl | rfl <;> decide

theorem isLocal_lineLength? (lang : Language) : Text.IsLocal lang.lineLength? := by
  intro x u u' n hn hle
  obtain ⟨⟨mark, hmark, hp⟩, rfl⟩ := lineLength?_eq_some_iff.1 hn
  have hrow : mark <+: (x ++ u).takeWhile (· != '\n') := by
    obtain ⟨rest, hrest⟩ := hp
    have hpass : ∀ d ∈ mark, (d != '\n') = true := fun d hd =>
      bne_iff_ne.2 fun h => feed_not_mem_of_mem_line hmark (h ▸ hd)
    rw [← hrest, List.takeWhile_append_of_pos hpass]
    exact List.prefix_append _ _
  have hp' := Text.prefix_append_of_le hp (Nat.le_trans hrow.length_le hle) u'
  refine ⟨_, lineLength?_eq_some_iff.2 ⟨⟨mark, hmark, hp'⟩, rfl⟩, fun hle' => ?_⟩
  exact Text.length_takeWhile_eq_of_le hle' hle

/-! ## Tokens in front of a boundary -/

theorem tokenAt_of_ink {t : Text} {c : Char} (hc : t.head? = some c) (hink : isBlank c = false) :
    lang.tokenAt t = match lang.lineLength? t with
      | some n => (.lineComment, n)
      | none => match lang.blockLength? t with
        | some n => (.blockComment, n)
        | none => match lang.literalLength? t with
          | some n => (.literal, n)
          | none => (.code, 1) := by
  obtain ⟨rest, rfl⟩ := List.head?_eq_some_iff.1 hc
  rw [tokenAt, if_neg (ne_feed_of_isBlank hink), if_neg (by simp [hink]), lineLength?,
    beginsLineComment]
  cases lang.comments.line.any (·.isPrefixOf (c :: rest)) with
  | true => rfl
  | false => rfl

/-- **A token that ends within a front is the token there whatever is behind the front, unless a
token reaches beyond the front then.** -/
theorem tokenAt_eq_of_le {x u u' : Text} (hx : x ≠ []) (h : (lang.tokenAt (x ++ u)).2 ≤ x.length)
    (h' : (lang.tokenAt (x ++ u')).2 ≤ x.length) :
    lang.tokenAt (x ++ u) = lang.tokenAt (x ++ u') := by
  obtain ⟨c, y, hy⟩ := List.exists_cons_of_ne_nil hx
  by_cases hfeed : c = '\n'
  · rw [hy, hfeed, List.cons_append, List.cons_append, tokenAt_newline, tokenAt_newline]
  cases hblank : isBlank c with
  | true => simp [hy, tokenAt, hfeed, hblank]
  | false =>
    have hhead : ∀ v, (x ++ v).head? = some c := fun v => by rw [hy]; rfl
    rw [tokenAt_of_ink (hhead u) hblank] at h ⊢
    rw [tokenAt_of_ink (hhead u') hblank] at h' ⊢
    -- each of the three measures is the same on both texts, once those in front of it fail
    have hline : lang.lineLength? (x ++ u) = lang.lineLength? (x ++ u') :=
      (isLocal_lineLength? lang).eq (fun n hn => by rwa [hn] at h) (fun n hn => by rwa [hn] at h')
    rw [hline] at h ⊢
    cases hl : lang.lineLength? (x ++ u') with
    | some n => rfl
    | none =>
      rw [hl] at h h'
      have hblock : lang.blockLength? (x ++ u) = lang.blockLength? (x ++ u') :=
        (isLocal_blockLength? lang).eq (fun n hn => by rwa [hn] at h)
          (fun n hn => by rwa [hn] at h')
      rw [hblock] at h ⊢
      cases hb : lang.blockLength? (x ++ u') with
      | some n => rfl
      | none =>
        rw [hb] at h h'
        have hliteral : lang.literalLength? (x ++ u) = lang.literalLength? (x ++ u') :=
          (isLocal_literalLength? lang).eq (fun n hn => by rwa [hn] at h)
            (fun n hn => by rwa [hn] at h')
        rw [hliteral]

theorem tokenAt_of_tokens_eq_cons {t : Text} {k : Token} {ls : List Token}
    (h : lang.tokens t = k :: ls) :
    lang.tokenAt (k.text ++ ls.flatMap Token.text) = (k.kind, k.text.length) ∧
      lang.tokens (ls.flatMap Token.text) = ls := by
  have hfront : lang.tokens t = [] ++ k :: ls := h
  have hbehind : lang.tokens t = [k] ++ ls := h
  exact ⟨tokenAt_of_beginsWith (beginsWith_of_append hfront), (eq_tokens_of_append hbehind).symm⟩

/-- **Two texts that are both cut at the end of a common front are cut alike in front of it.** -/
theorem eq_of_common_front {t t' : Text} {ks ls ks' ls' : List Token}
    (h : lang.tokens t = ks ++ ls) (h' : lang.tokens t' = ks' ++ ls')
    (hfront : ks.flatMap Token.text = ks'.flatMap Token.text) : ks = ks' := by
  induction ks generalizing t t' ks' with
  | nil =>
    cases ks' with
    | nil => rfl
    | cons k ks' =>
      have hk : k.text = [] := (List.append_eq_nil_iff.1 hfront.symm).1
      exact absurd hk (text_ne_nil_of_mem_tokens (t := t') (by rw [h']; simp))
  | cons k ks ih =>
    cases ks' with
    | nil =>
      have hk : k.text = [] := (List.append_eq_nil_iff.1 hfront).1
      exact absurd hk (text_ne_nil_of_mem_tokens (t := t) (by rw [h]; simp))
    | cons k' ks' =>
      have hk : k.text ≠ [] := text_ne_nil_of_mem_tokens (t := t) (by rw [h]; simp)
      rw [List.cons_append] at h h'
      obtain ⟨hat, hrest⟩ := tokenAt_of_tokens_eq_cons h
      obtain ⟨hat', hrest'⟩ := tokenAt_of_tokens_eq_cons h'
      rw [List.flatMap_cons, List.flatMap_cons] at hfront
      have heq : lang.tokenAt (k.text ++ (ks ++ ls).flatMap Token.text) =
          lang.tokenAt (k'.text ++ (ks' ++ ls').flatMap Token.text) := by
        rw [List.flatMap_append, ← List.append_assoc] at hat ⊢
        rw [List.flatMap_append, ← List.append_assoc, ← hfront] at hat' ⊢
        refine tokenAt_eq_of_le (by simp [hk]) ?_ ?_
        · rw [hat, List.length_append]
          exact Nat.le_add_right ..
        · rw [hat', hfront, List.length_append]
          exact Nat.le_add_right ..
      rw [hat, hat', Prod.mk.injEq] at heq
      obtain ⟨htext, hbehind⟩ := List.append_inj hfront heq.2
      have hkk : k = k' := by
        show Token.mk k.kind k.text = ⟨k'.kind, k'.text⟩
        rw [heq.1, htext]
      rw [hkk, ih hrest hrest' hbehind]

end Language

end CodeFolding
