import CodeFolding.Proofs.Token.Lexer
/-!
# Where the tokens of a text stand

The tokens of a text tile it: each begins where those in front of it end, at the offset and on the
line that their text makes up. Main statements: the place of a token in terms of the tokens in
front of it (`place_of_append`), the order of tokens by offsets and lines (`pairwise_placed`,
`pairwise_line_placed`), and that no two tokens cover one offset (`eq_of_covers`).
-/
namespace CodeFolding

namespace PlacedToken

/-- The text that some tokens make up. -/
def spelled (ks : List PlacedToken) : Text := ks.flatMap fun k => k.text

@[simp] theorem spelled_nil : spelled [] = [] := rfl

@[simp] theorem spelled_cons (k : PlacedToken) (ks : List PlacedToken) :
    spelled (k :: ks) = k.text ++ spelled ks := rfl

@[simp] theorem spelled_append (ks ls : List PlacedToken) :
    spelled (ks ++ ls) = spelled ks ++ spelled ls := List.flatMap_append

theorem flatMap_text_map (ks : List PlacedToken) :
    (ks.map toToken).flatMap Token.text = spelled ks := List.flatMap_map ..

/-- Tokens placed one behind the other, the first at the given offset and line. -/
def placeFrom : (offset line : Nat) → List Token → List PlacedToken
  | _, _, [] => []
  | offset, line, t :: ts =>
    ⟨t, offset, line⟩ :: placeFrom (offset + Text.size t.text) (line + Text.newlines t.text) ts

theorem place_eq (ts : List Token) : place ts = placeFrom 0 0 ts := by
  have hfold : ∀ (ts : List Token) (placed : Array PlacedToken) (offset line : Nat),
      (ts.foldl placeNext (placed, offset, line)).1.toList =
        placed.toList ++ placeFrom offset line ts := by
    intro ts
    induction ts with
    | nil => intro placed offset line; simp [placeFrom]
    | cons t ts ih =>
      intro placed offset line
      rw [List.foldl_cons, placeNext, ih]
      simp [placeFrom]
  rw [place, hfold]
  rfl

theorem map_toToken_placeFrom (ts : List Token) (offset line : Nat) :
    (placeFrom offset line ts).map toToken = ts := by
  induction ts generalizing offset line with
  | nil => rfl
  | cons t ts ih => rw [placeFrom, List.map_cons, ih]

theorem placeFrom_append (ts us : List Token) (offset line : Nat) :
    placeFrom offset line (ts ++ us) = placeFrom offset line ts ++
      placeFrom (offset + Text.size (ts.flatMap Token.text))
        (line + Text.newlines (ts.flatMap Token.text)) us := by
  induction ts generalizing offset line with
  | nil => rfl
  | cons t ts ih =>
    rw [List.cons_append, placeFrom, placeFrom, ih, List.flatMap_cons, Text.size_append,
      Text.newlines_append, List.cons_append, Nat.add_assoc, Nat.add_assoc]

theorem placeFrom_eq_append {ts : List Token} {offset line : Nat} {k : PlacedToken}
    {ks ls : List PlacedToken} (h : placeFrom offset line ts = ks ++ k :: ls) :
    k.offset = offset + Text.size (spelled ks) ∧ k.line = line + Text.newlines (spelled ks) := by
  induction ks generalizing ts offset line with
  | nil =>
    cases ts with
    | nil => simp [placeFrom] at h
    | cons t ts =>
      rw [placeFrom, List.nil_append, List.cons.injEq] at h
      obtain ⟨rfl, -⟩ := h
      exact ⟨rfl, rfl⟩
  | cons j ks ih =>
    cases ts with
    | nil => simp [placeFrom] at h
    | cons t ts =>
      rw [placeFrom, List.cons_append, List.cons.injEq] at h
      obtain ⟨rfl, h⟩ := h
      obtain ⟨hoffset, hline⟩ := ih h
      rw [spelled_cons, Text.size_append, Text.newlines_append, hoffset, hline]
      exact ⟨Nat.add_assoc .., Nat.add_assoc ..⟩

/-- Whether a token holds the byte at an offset. -/
def Covers (k : PlacedToken) (offset : Nat) : Prop :=
  k.offset ≤ offset ∧ offset < k.offset + Text.size k.text

end PlacedToken

open PlacedToken

theorem pairwise_of_append {α : Type} {R : α → α → Prop} {l : List α}
    (h : ∀ front a between b rest, l = front ++ a :: (between ++ b :: rest) → R a b) :
    l.Pairwise R := by
  rw [List.pairwise_iff_forall_sublist]
  intro a b hab
  obtain ⟨r₁, r₂, rfl, ha, hb⟩ := List.cons_sublist_iff.1 hab
  obtain ⟨front, s, rfl⟩ := List.append_of_mem ha
  obtain ⟨s', rest, rfl⟩ := List.append_of_mem (List.singleton_sublist.1 hb)
  exact h front a (s ++ s') b rest (by simp)

theorem eq_or_of_pairwise {α : Type} {R : α → α → Prop} {l : List α} (h : l.Pairwise R)
    {a b : α} (ha : a ∈ l) (hb : b ∈ l) : a = b ∨ R a b ∨ R b a :=
  List.Pairwise.forall_of_forall_of_flip (R := fun a b => a = b ∨ R a b ∨ R b a)
    (fun _ _ => Or.inl rfl) (h.imp fun hab => Or.inr (Or.inl hab))
    (h.imp fun hab => Or.inr (Or.inr hab)) ha hb

namespace Language

def placed (lang : Language) (t : Text) : List PlacedToken := PlacedToken.place (lang.tokens t)

variable {lang : Language} {t : Text}

theorem map_toToken_placed (lang : Language) (t : Text) :
    (lang.placed t).map toToken = lang.tokens t := by
  rw [placed, place_eq, map_toToken_placeFrom]

theorem tokens_of_placed {ks ls : List PlacedToken} {k : PlacedToken}
    (h : lang.placed t = ks ++ k :: ls) :
    lang.tokens t = ks.map toToken ++ k.toToken :: ls.map toToken := by
  rw [← map_toToken_placed, h, List.map_append, List.map_cons]

/-- **Tokens tile their text.** -/
theorem spelled_placed (lang : Language) (t : Text) : spelled (lang.placed t) = t := by
  rw [← flatMap_text_map, map_toToken_placed, flatMap_tokens]

/-- **A token begins where the text of the tokens in front of it ends.** -/
theorem place_of_append {ks ls : List PlacedToken} {k : PlacedToken}
    (h : lang.placed t = ks ++ k :: ls) :
    k.offset = Text.size (spelled ks) ∧ k.line = Text.newlines (spelled ks) := by
  rw [placed, place_eq] at h
  have := placeFrom_eq_append h
  omega

theorem split_of_placed {ks ls : List PlacedToken} {k : PlacedToken}
    (h : lang.placed t = ks ++ k :: ls) : t = spelled ks ++ (k.text ++ spelled ls) := by
  rw [← spelled_cons, ← spelled_append, ← h, spelled_placed]

theorem text_ne_nil_of_mem_placed {k : PlacedToken} (h : k ∈ lang.placed t) : k.text ≠ [] := by
  have hmem : k.toToken ∈ lang.tokens t := by
    rw [← map_toToken_placed]
    exact List.mem_map_of_mem h
  exact text_ne_nil_of_mem_tokens hmem

theorem at?_of_mem_placed {k : PlacedToken} (h : k ∈ lang.placed t) :
    Text.at? t k.offset = k.text.head? := by
  obtain ⟨ks, ls, hsplit⟩ := List.append_of_mem h
  obtain ⟨c, more, hc⟩ := List.exists_cons_of_ne_nil (text_ne_nil_of_mem_placed h)
  rw [(place_of_append hsplit).1, split_of_placed hsplit, Text.at?_append, hc]
  rfl

/-- Tokens do not overlap, in bytes and in lines. -/
theorem pairwise_placed (lang : Language) (t : Text) :
    (lang.placed t).Pairwise fun j k =>
      j.offset + Text.size j.text ≤ k.offset ∧ j.endLine ≤ k.line := by
  refine pairwise_of_append fun front j between k rest h => ?_
  obtain ⟨hjo, hjl⟩ := place_of_append h
  rw [← List.cons_append, ← List.append_assoc] at h
  obtain ⟨hko, hkl⟩ := place_of_append h
  simp only [spelled_append, spelled_cons, Text.size_append, Text.newlines_append] at hko hkl
  exact ⟨by omega, by rw [endLine]; omega⟩

theorem pairwise_offset_placed (lang : Language) (t : Text) :
    (lang.placed t).Pairwise fun j k => j.offset < k.offset := by
  refine (pairwise_placed lang t).imp_of_mem fun hj _ h => ?_
  have := Text.size_pos (text_ne_nil_of_mem_placed hj)
  omega

/-- A token in front of another ends on the line of the other, or further up. -/
theorem endLine_le_of_offset_lt {j k : PlacedToken} (hj : j ∈ lang.placed t)
    (hk : k ∈ lang.placed t) (h : j.offset < k.offset) : j.endLine ≤ k.line := by
  rcases eq_or_of_pairwise (pairwise_placed lang t) hj hk with rfl | ⟨-, hle⟩ | ⟨hle, -⟩
  · omega
  · exact hle
  · omega

/-- **No two tokens cover one offset.** -/
theorem eq_of_covers {j k : PlacedToken} {offset : Nat} (hj : j ∈ lang.placed t)
    (hk : k ∈ lang.placed t) (hjc : j.Covers offset) (hkc : k.Covers offset) : j = k := by
  obtain ⟨hj1, hj2⟩ := hjc
  obtain ⟨hk1, hk2⟩ := hkc
  rcases eq_or_of_pairwise (pairwise_placed lang t) hj hk with h | ⟨h, -⟩ | ⟨h, -⟩
  · exact h
  · omega
  · omega

/-- **Behind a line comment every token but the line feed is on a later line.** -/
theorem pairwise_line_placed (lang : Language) (t : Text) :
    (lang.placed t).Pairwise fun j k =>
      j.kind = .lineComment → k.kind ≠ .newline → j.line < k.line := by
  refine pairwise_of_append fun front j between k rest h hj hk => ?_
  have hjl := (place_of_append h).2
  have hrow := (lineComment_of_append (tokens_of_placed h) hj).2
  rw [flatMap_text_map, spelled_append, spelled_cons] at hrow
  rw [← List.cons_append, ← List.append_assoc] at h
  have hkl := (place_of_append h).2
  have hktext : k.text ≠ [] := text_ne_nil_of_mem_placed (by rw [h]; simp)
  simp only [spelled_append, spelled_cons, Text.newlines_append] at hkl
  rcases hrow with hnil | hfeed
  · exact absurd (List.append_eq_nil_iff.1 (List.append_eq_nil_iff.1 hnil).2).1 hktext
  · cases hb : spelled between with
    | nil =>
      -- the token itself begins with the line feed
      obtain ⟨c, more, hc⟩ := List.exists_cons_of_ne_nil hktext
      have hhead : k.text.head? = some '\n' := by simpa [hb, hc] using hfeed
      exact absurd (kind_of_head?_eq_feed (tokens_of_placed h) hhead) hk
    | cons c more =>
      obtain rfl : c = '\n' := by simpa [hb] using hfeed
      have : Text.newlines (spelled between) = Text.newlines more + 1 := by
        rw [hb, Text.newlines_cons]; rfl
      omega

theorem line_lt_of_offset_lt {j k : PlacedToken} (hj : j ∈ lang.placed t)
    (hk : k ∈ lang.placed t) (hcomment : j.kind = .lineComment) (hfeed : k.kind ≠ .newline)
    (h : j.offset < k.offset) : j.line < k.line := by
  have hpair := (pairwise_offset_placed lang t).and (pairwise_line_placed lang t)
  rcases eq_or_of_pairwise hpair hj hk with rfl | ⟨-, hlt⟩ | ⟨hlt, -⟩
  · omega
  · exact hlt hcomment hfeed
  · omega

end Language

end CodeFolding
