import CodeFolding.Proofs.Scanner.Run
import Mathlib.Algebra.Ring.Parity
/-!
# Which literal a quote begins

Behind its first quote a literal runs up to the first character that ends it and that no backslash
takes. A backslash takes the character behind it, so a character is taken just if an odd number of
backslashes stands directly in front of it. Main statement: both scanners stop behind the literal of
this description, and there is no other one (`literal_stops_exact`).
-/
namespace CodeFolding

open Text

/-! ## Backslashes in front of a character -/

def endBackslashes (t : Text) : Nat := (t.reverse.takeWhile (· == '\\')).length

theorem endBackslashes_append_backslash (t : Text) :
    endBackslashes (t ++ ['\\']) = endBackslashes t + 1 := by
  simp [endBackslashes]

theorem endBackslashes_append_other {c : Char} (h : c ≠ '\\') (t : Text) :
    endBackslashes (t ++ [c]) = 0 := by
  simp [endBackslashes, h]

/-! ## Quoted literals -/

/-- What ends a quoted literal: its quote, and the line if the literal may not span lines. -/
def EndsLiteral (quote : Char) (multiline : Bool) (c : Char) : Prop :=
  c = quote ∨ multiline = false ∧ c = '\n'

instance (quote : Char) (multiline : Bool) (c : Char) : Decidable (EndsLiteral quote multiline c) :=
  inferInstanceAs (Decidable (_ ∨ _))

/-- A literal goes on through the text: what would end it is taken by a backslash. -/
def RunsThrough (quote : Char) (multiline : Bool) (inner : Text) : Prop :=
  ∀ front c behind, inner = front ++ c :: behind → Even (endBackslashes front) →
    ¬ EndsLiteral quote multiline c

/-- The literal that a quote begins, given the text behind the quote. -/
inductive IsQuoted (quote : Char) (multiline : Bool) : (body literal : Text) → Prop where
  /-- It ends with the first quote that is not taken. -/
  | closed {inner behind : Text} : RunsThrough quote multiline inner → Even (endBackslashes inner) →
      IsQuoted quote multiline (inner ++ quote :: behind) (quote :: (inner ++ [quote]))
  /-- It ends in front of the first line feed that is not taken. -/
  | cut {inner behind : Text} : multiline = false → quote ≠ '\n' →
      RunsThrough quote multiline inner → Even (endBackslashes inner) →
      IsQuoted quote multiline (inner ++ '\n' :: behind) (quote :: inner)
  /-- It ends with the text. -/
  | unclosed {inner : Text} : RunsThrough quote multiline inner →
      IsQuoted quote multiline inner (quote :: inner)

variable {quote : Char} {multiline : Bool} {inner body literal : Text}

theorem runsThrough_nil : RunsThrough quote multiline [] := by
  intro front c behind h
  cases front <;> cases h

/-- A literal goes on through one more character if it is no end of it or is taken. -/
theorem runsThrough_append_singleton {c : Char} :
    RunsThrough quote multiline (inner ++ [c]) ↔
      RunsThrough quote multiline inner ∧
        (Even (endBackslashes inner) → ¬ EndsLiteral quote multiline c) := by
  constructor
  · intro h
    refine ⟨fun front d behind heq => h front d (behind ++ [c]) ?_, h inner c [] rfl⟩
    rw [heq]
    simp
  · rintro ⟨hinner, hc⟩ front d behind heq heven
    rcases List.eq_nil_or_concat behind with rfl | ⟨behind, e, rfl⟩
    · obtain ⟨rfl, hd⟩ := List.append_inj' heq rfl
      obtain rfl := (List.cons.inj hd).1
      exact hc heven
    · rw [List.concat_eq_append, ← List.cons_append, ← List.append_assoc] at heq
      exact hinner front d behind (List.append_inj' heq rfl).1 heven

/-- **A scanner goes through a text up to the end of the literal,** and then the character behind is
taken just if the text ends in an odd number of backslashes. -/
theorem quotedFrom_append (h : RunsThrough quote multiline inner) (rest : Text) (n : Nat) :
    quotedFrom quote multiline false (inner ++ rest) n =
      quotedFrom quote multiline (decide (Odd (endBackslashes inner))) rest (n + inner.length) := by
  induction inner using List.reverseRecOn generalizing rest with
  | nil => rfl
  | append_singleton inner c ih =>
    obtain ⟨hinner, hc⟩ := runsThrough_append_singleton.1 h
    rw [List.append_assoc, List.singleton_append, ih hinner, List.length_append,
      List.length_singleton, ← Nat.add_assoc]
    by_cases hodd : Odd (endBackslashes inner)
    · -- the character is taken, and takes none itself
      have hnext : ¬ Odd (endBackslashes (inner ++ [c])) := by
        by_cases hslash : c = '\\'
        · rw [hslash, endBackslashes_append_backslash, Nat.not_odd_iff_even]
          exact hodd.add_one
        · rw [endBackslashes_append_other hslash]
          decide
      rw [decide_eq_true hodd, decide_eq_false hnext, quotedFrom]
    · have heven : Even (endBackslashes inner) := Nat.not_odd_iff_even.1 hodd
      rw [decide_eq_false hodd, quotedFrom]
      by_cases hslash : c = '\\'
      · have hnext : Odd (endBackslashes (inner ++ [c])) := by
          rw [hslash, endBackslashes_append_backslash]
          exact heven.add_one
        rw [if_pos hslash, decide_eq_true hnext]
      · have hnext : ¬ Odd (endBackslashes (inner ++ [c])) := by
          rw [endBackslashes_append_other hslash]
          decide
        have hgo := hc heven
        rw [EndsLiteral, not_or] at hgo
        rw [if_neg hslash, if_neg hgo.1, if_neg (by simpa [and_comm] using hgo.2),
          decide_eq_false hnext]

theorem runsThrough_or_exists_end (quote : Char) (multiline : Bool) (body : Text) :
    RunsThrough quote multiline body ∨
      ∃ inner c behind, body = inner ++ c :: behind ∧ RunsThrough quote multiline inner ∧
        Even (endBackslashes inner) ∧ EndsLiteral quote multiline c := by
  induction body using List.reverseRecOn with
  | nil => exact Or.inl runsThrough_nil
  | append_singleton body c ih =>
    rcases ih with hbody | ⟨inner, d, behind, rfl, hinner, heven, hd⟩
    · by_cases hstop : Even (endBackslashes body) ∧ EndsLiteral quote multiline c
      · exact Or.inr ⟨body, c, [], rfl, hbody, hstop.1, hstop.2⟩
      · exact Or.inl (runsThrough_append_singleton.2 ⟨hbody, fun heven hc => hstop ⟨heven, hc⟩⟩)
    · exact Or.inr ⟨inner, d, behind ++ [c], by simp, hinner, heven, hd⟩

theorem IsQuoted.quotedLength_eq (hquote : quote ≠ '\\')
    (h : IsQuoted quote multiline body literal) :
    quotedLength quote multiline (quote :: body) = literal.length ∧ literal <+: quote :: body := by
  rw [quotedLength, List.drop_succ_cons, List.drop_zero]
  cases h with
  | @closed inner behind hinner heven =>
    rw [quotedFrom_append hinner, decide_eq_false (Nat.not_odd_iff_even.2 heven), quotedFrom,
      if_neg hquote, if_pos rfl]
    exact ⟨by simp [Nat.add_comm], behind, by simp⟩
  | @cut inner behind hline hne hinner heven =>
    rw [quotedFrom_append hinner, decide_eq_false (Nat.not_odd_iff_even.2 heven), quotedFrom,
      if_neg (by decide), if_neg hne.symm, if_pos (by simp [hline])]
    exact ⟨Nat.add_comm _ _, '\n' :: behind, by simp⟩
  | unclosed hbody =>
    have hread := quotedFrom_append hbody [] 1
    rw [List.append_nil] at hread
    rw [hread]
    refine ⟨?_, List.prefix_refl _⟩
    cases decide (Odd (endBackslashes body)) <;> exact Nat.add_comm _ _

/-- **The literal that a quote begins is what the scanner takes.** -/
theorem isQuoted_iff (hquote : quote ≠ '\\') :
    IsQuoted quote multiline body literal ↔
      literal = (quote :: body).take (quotedLength quote multiline (quote :: body)) := by
  have htake : ∀ {literal}, IsQuoted quote multiline body literal →
      literal = (quote :: body).take (quotedLength quote multiline (quote :: body)) := by
    intro literal h
    obtain ⟨hlength, hprefix⟩ := h.quotedLength_eq hquote
    rw [hlength]
    exact List.prefix_iff_eq_take.1 hprefix
  refine ⟨htake, ?_⟩
  rintro rfl
  rcases runsThrough_or_exists_end quote multiline body with
    hbody | ⟨inner, c, behind, rfl, hinner, heven, hc⟩
  · exact htake (.unclosed hbody) ▸ .unclosed hbody
  · by_cases hclosed : c = quote
    · subst hclosed
      exact htake (.closed hinner heven) ▸ .closed hinner heven
    · obtain ⟨hline, rfl⟩ := hc.resolve_left hclosed
      exact htake (.cut hline (Ne.symm hclosed) hinner heven) ▸
        .cut hline (Ne.symm hclosed) hinner heven

/-! ## Character literals -/

/-- The character literal that a quote begins, given the text behind the quote. -/
inductive IsCharLiteral : (body literal : Text) → Prop where
  /-- One character that is no line feed, quote or backslash, between two quotes. -/
  | plain {c : Char} {behind : Text} : c ≠ '\n' → c ≠ '\'' → c ≠ '\\' →
      IsCharLiteral (c :: '\'' :: behind) ['\'', c, '\'']
  /-- A backslash and the character it takes, which may be a quote. The closing quote is the first
  one behind them, and it is among the next nine characters of the line. -/
  | escape {c : Char} {mid behind : Text} : c ≠ '\n' → '\n' ∉ mid → '\'' ∉ mid →
      mid.length < 9 →
      IsCharLiteral ('\\' :: c :: (mid ++ '\'' :: behind)) ('\'' :: '\\' :: c :: (mid ++ ['\'']))

theorem charLength?_eq_some_iff_isCharLiteral {n : Nat} :
    charLength? ('\'' :: body) = some n ↔
      ∃ literal, IsCharLiteral body literal ∧ n = literal.length := by
  rw [charLength?_eq_some_iff]
  constructor
  · rintro (⟨c, b, rfl, hfeed, hquote, hslash, rfl⟩ | ⟨c, mid, b, rfl, hfeed, hquote, hwindow, rfl⟩)
    · exact ⟨_, .plain hfeed hquote hslash, rfl⟩
    · rw [List.mem_cons, not_or] at hfeed
      rw [escapeWindow] at hwindow
      exact ⟨_, .escape (Ne.symm hfeed.1) hfeed.2 hquote (by omega), by simp⟩
  · rintro ⟨literal, h, rfl⟩
    cases h with
    | @plain c behind hfeed hquote hslash =>
      exact Or.inl ⟨c, behind, rfl, hfeed, hquote, hslash, rfl⟩
    | @escape c mid behind hc hfeed hquote hlength =>
      refine Or.inr ⟨c, mid, behind, rfl, by simp [hc.symm, hfeed], hquote, ?_, by simp⟩
      rw [escapeWindow]
      omega

theorem IsCharLiteral.prefix_cons (h : IsCharLiteral body literal) : literal <+: '\'' :: body := by
  cases h with
  | @plain c behind => exact ⟨behind, rfl⟩
  | @escape c mid behind => exact ⟨behind, by simp⟩

/-! ## Stops in bytes -/

theorem size_take_of_prefix {t : Text} (h : literal <+: t) :
    size (t.take literal.length) = size literal := by
  rw [← List.prefix_iff_eq_take.1 h]

theorem isBoundary_of_prefix {t : Text} (h : literal <+: t) : t.IsBoundary (size literal) := by
  obtain ⟨rest, rfl⟩ := h
  exact ⟨literal, rest, rfl, rfl⟩

theorem charStop?_eq_some_iff {n : Nat} :
    charStop? ('\'' :: body) = some n ↔
      ∃ literal, IsCharLiteral body literal ∧ n = size literal := by
  rw [charStop?_cons, Option.map_eq_some_iff]
  constructor
  · rintro ⟨k, hk, rfl⟩
    obtain ⟨literal, hliteral, rfl⟩ := charLength?_eq_some_iff_isCharLiteral.1 hk
    exact ⟨literal, hliteral, size_take_of_prefix hliteral.prefix_cons⟩
  · rintro ⟨literal, hliteral, rfl⟩
    exact ⟨literal.length, charLength?_eq_some_iff_isCharLiteral.2 ⟨literal, hliteral, rfl⟩,
      size_take_of_prefix hliteral.prefix_cons⟩

/-- **Both scanners stop behind the literal that the quote begins.** For every text behind a quote
there is one quoted literal of the description, and the scanner stops behind it, counted in
characters and in bytes. A character literal is found just if there is one of its description, and
the scanner stops behind its closing quote. All stops are between two characters, or at the end. -/
theorem literal_stops_exact (body : Text) :
    (∀ quote multiline, quote ≠ '\\' →
      ∃ literal, (∀ other, IsQuoted quote multiline body other ↔ other = literal) ∧
        quotedLength quote multiline (quote :: body) = literal.length ∧
        quotedStop quote multiline (quote :: body) = size literal ∧
        Text.IsBoundary (quote :: body) (size literal)) ∧
    (∀ n, charLength? ('\'' :: body) = some n ↔
      ∃ literal, IsCharLiteral body literal ∧ n = literal.length) ∧
    (∀ n, charStop? ('\'' :: body) = some n ↔
      ∃ literal, IsCharLiteral body literal ∧ n = size literal) ∧
    ∀ n, charStop? ('\'' :: body) = some n → Text.IsBoundary ('\'' :: body) n := by
  refine ⟨fun quote multiline hquote => ?_, fun n => charLength?_eq_some_iff_isCharLiteral,
    fun n => charStop?_eq_some_iff, fun n hn => ?_⟩
  · obtain ⟨hlength, hprefix⟩ := ((isQuoted_iff hquote).2 rfl).quotedLength_eq hquote
    exact ⟨_, fun other => isQuoted_iff hquote, hlength, quotedStop_cons quote multiline quote body,
      isBoundary_of_prefix hprefix⟩
  · obtain ⟨literal, hliteral, rfl⟩ := charStop?_eq_some_iff.1 hn
    exact isBoundary_of_prefix hliteral.prefix_cons

/-- Two backslashes in front of a closing quote, and a quote that a backslash takes. -/
theorem literal_stops_exact_of_backslashes :
    '"' ≠ '\\' ∧ IsQuoted '"' false ['é', '\\', '\\', '"', ';'] ['"', 'é', '\\', '\\', '"'] ∧
      quotedStop '"' false ['"', 'é', '\\', '\\', '"', ';'] = 6 ∧
      charStop? ['\'', '\\', '\'', '\'', ';'] = some 4 ∧
      Text.IsBoundary ['\'', '\\', '\'', '\'', ';'] 4 := by
  have hquote : '"' ≠ '\\' := by decide
  have hinner : RunsThrough '"' false ([] ++ ['é'] ++ ['\\'] ++ ['\\']) := by
    refine runsThrough_append_singleton.2 ⟨runsThrough_append_singleton.2
      ⟨runsThrough_append_singleton.2 ⟨runsThrough_nil, ?_⟩, ?_⟩, ?_⟩ <;> decide
  have hquoted : IsQuoted '"' false ['é', '\\', '\\', '"', ';'] ['"', 'é', '\\', '\\', '"'] :=
    .closed hinner (by decide)
  obtain ⟨literal, hunique, -, hstop, -⟩ :=
    (literal_stops_exact ['é', '\\', '\\', '"', ';']).1 '"' false hquote
  obtain rfl := (hunique _).1 hquoted
  have hescape : IsCharLiteral ['\\', '\'', '\'', ';'] ['\'', '\\', '\'', '\''] :=
    @IsCharLiteral.escape '\'' [] [';'] (by decide) (by simp) (by simp) (by decide)
  obtain ⟨-, -, hchar, hboundary⟩ := literal_stops_exact ['\\', '\'', '\'', ';']
  have hfound := (hchar 4).2 ⟨_, hescape, rfl⟩
  exact ⟨hquote, hquoted, hstop, hfound, hboundary 4 hfound⟩

end CodeFolding
