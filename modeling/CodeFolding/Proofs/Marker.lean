import CodeFolding.Marker
/-!
# The lines that markers leave

The opening marker counts in the first comment that holds it, and the closing marker in the first
other comment that holds that one, above it or below. Main statements: without an opening marker
the body is left (`narrow_eq_self`), and with one the lines behind it up to the closing one
(`narrow_append_cons`).
-/
namespace CodeFolding.MarkerPair

/-- The line of the first comment that holds the closing marker. -/
def closingLine? (m : MarkerPair) (comments : List LineComment) : Option Nat :=
  (comments.find? fun c => Text.holds m.closing c.text).map LineComment.line

variable {m : MarkerPair} {front rest comments : List LineComment} {c : LineComment}

@[simp] theorem closingLine?_nil (m : MarkerPair) : m.closingLine? [] = none := rfl

theorem closingLine?_append (m : MarkerPair) (front rest : List LineComment) :
    m.closingLine? (front ++ rest) = (m.closingLine? front).or (m.closingLine? rest) := by
  unfold closingLine?
  rw [List.find?_append, Option.map_or]

theorem closingLine?_cons (m : MarkerPair) (c : LineComment) (comments : List LineComment) :
    m.closingLine? (c :: comments) =
      if Text.holds m.closing c.text then some c.line else m.closingLine? comments := by
  unfold closingLine?
  by_cases hc : Text.holds m.closing c.text = true <;> simp [hc]

/-- **Where no opening marker is taken any more, reading finds the closing one.** It is taken
already, or no comment holds it. -/
theorem foldl_read_eq {first : Option Nat} (last : Option Nat)
    (h : first.isSome ∨ ∀ c ∈ comments, ¬ m.opening <:+: c.text) :
    comments.foldl m.read (first, last) = (first, last.or (m.closingLine? comments)) := by
  induction comments generalizing last with
  | nil => simp
  | cons c comments ih =>
    have hopening : (first.isNone && Text.holds m.opening c.text) = false := by
      rcases h with h | h
      · simp [Option.isSome_iff_ne_none.1 h]
      · have hc : Text.holds m.opening c.text = false :=
          Bool.eq_false_iff.2 fun hc => h c List.mem_cons_self (Text.holds_iff.1 hc)
        simp [hc]
    have hrest : first.isSome ∨ ∀ c ∈ comments, ¬ m.opening <:+: c.text :=
      h.imp_right fun h d hd => h d (List.mem_cons_of_mem c hd)
    rw [List.foldl_cons, closingLine?_cons, read]
    simp only [hopening, Bool.false_eq_true, if_false]
    cases last with
    | none =>
      by_cases hc : Text.holds m.closing c.text = true
      · simp [hc, ih _ hrest]
      · simp [hc, ih _ hrest]
    | some n => simp [ih _ hrest]

theorem narrow_eq_self (body : LineRange) (h : ∀ c ∈ comments, ¬ m.opening <:+: c.text) :
    m.narrow comments body = body := by
  unfold narrow
  rw [foldl_read_eq none (Or.inr h)]

/-- **The first comment with the opening marker begins the lines that are left, and the first other
one with the closing marker ends them.** Without that one they run to the end of the body. -/
theorem narrow_append_cons (body : LineRange) (hfront : ∀ d ∈ front, ¬ m.opening <:+: d.text)
    (hc : m.opening <:+: c.text) :
    m.narrow (front ++ c :: rest) body =
      ⟨c.line + 1, (m.closingLine? (front ++ rest)).getD body.last⟩ := by
  have hread : m.read (none, m.closingLine? front) c =
      (some (c.line + 1), m.closingLine? front) := by
    simp [read, Text.holds_iff.2 hc]
  unfold narrow
  rw [List.foldl_append, foldl_read_eq none (Or.inr hfront), List.foldl_cons, Option.none_or,
    hread, foldl_read_eq _ (Or.inl rfl), closingLine?_append]

theorem unopened_or_exists_first (m : MarkerPair) (comments : List LineComment) :
    (∀ c ∈ comments, ¬ m.opening <:+: c.text) ∨
      ∃ front c rest, comments = front ++ c :: rest ∧
        (∀ d ∈ front, ¬ m.opening <:+: d.text) ∧ m.opening <:+: c.text := by
  cases hfind : comments.find? fun c => Text.holds m.opening c.text with
  | none =>
    left
    intro c hc
    simpa [Text.holds_iff] using List.find?_eq_none.1 hfind c hc
  | some c =>
    right
    obtain ⟨hc, front, rest, hsplit, hfront⟩ := List.find?_eq_some_iff_append.1 hfind
    refine ⟨front, c, rest, hsplit, fun d hd => ?_, Text.holds_iff.1 hc⟩
    have hd := hfront d hd
    rwa [Bool.not_eq_true', ← Bool.not_eq_true, Text.holds_iff] at hd

theorem exists_line_of_closingLine? {n : Nat} (h : m.closingLine? comments = some n) :
    ∃ c ∈ comments, n = c.line := by
  obtain ⟨c, hc, rfl⟩ := Option.map_eq_some_iff.1 h
  exact ⟨c, List.mem_of_find?_eq_some hc, rfl⟩

theorem narrow_first (m : MarkerPair) (comments : List LineComment) (body : LineRange) :
    (m.narrow comments body).first = body.first ∨
      ∃ c ∈ comments, (m.narrow comments body).first = c.line + 1 := by
  rcases unopened_or_exists_first m comments with h | ⟨front, c, rest, rfl, hfront, hc⟩
  · exact Or.inl (by rw [narrow_eq_self body h])
  · exact Or.inr ⟨c, by simp, by rw [narrow_append_cons body hfront hc]⟩

theorem narrow_last (m : MarkerPair) (comments : List LineComment) (body : LineRange) :
    (m.narrow comments body).last = body.last ∨
      ∃ c ∈ comments, (m.narrow comments body).last = c.line := by
  rcases unopened_or_exists_first m comments with h | ⟨front, c, rest, rfl, hfront, hc⟩
  · exact Or.inl (by rw [narrow_eq_self body h])
  · rw [narrow_append_cons body hfront hc]
    cases hlast : m.closingLine? (front ++ rest) with
    | none => exact Or.inl rfl
    | some n =>
      obtain ⟨d, hd, rfl⟩ := exists_line_of_closingLine? hlast
      refine Or.inr ⟨d, ?_, rfl⟩
      rcases List.mem_append.1 hd with hd | hd <;> simp [hd]

end CodeFolding.MarkerPair
