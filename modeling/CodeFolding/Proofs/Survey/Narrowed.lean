import CodeFolding.Proofs.Marker
import CodeFolding.Proofs.Survey.Lines
import Mathlib.Order.BooleanAlgebra.Set
import Mathlib.Order.Bounds.Defs
/-!
# The lines of a method that markers leave

Which comments decide is said here by their positions: the first one with the opening marker, and
the first other one with the closing marker. In a method they lie behind the opening brace and in
front of the line of the closing one, so the lines that are left are lines of its body. Main
statement: `narrow_exact`.
-/
namespace CodeFolding

namespace MarkerPair

/-- The positions of the comments that hold a phrase. -/
def positions (phrase : Text) (comments : List LineComment) : Set Nat :=
  {i | ∃ c, comments[i]? = some c ∧ phrase <:+: c.text}

variable {m : MarkerPair} {phrase : Text} {comments : List LineComment} {body : LineRange}
  {c d : LineComment} {i j k : Nat}

theorem not_holds_of_not_mem_positions (h : i ∉ positions phrase comments)
    (hc : comments[i]? = some c) : ¬ phrase <:+: c.text := by
  intro hholds
  exact h ⟨c, hc, hholds⟩

theorem positions_eq_empty_iff :
    positions phrase comments = ∅ ↔ ∀ c ∈ comments, ¬ phrase <:+: c.text := by
  constructor
  · intro h c hc
    obtain ⟨i, hi⟩ := List.mem_iff_getElem?.1 hc
    apply not_holds_of_not_mem_positions (i := i) _ hi
    simp [h]
  · intro h
    apply Set.eq_empty_of_forall_notMem
    rintro i ⟨c, hc, hholds⟩
    exact h c (List.mem_of_getElem? hc) hholds

theorem not_holds_of_mem_take (hk : IsLeast (positions phrase comments) k) :
    ∀ c ∈ comments.take k, ¬ phrase <:+: c.text := by
  intro c hc
  obtain ⟨i, hi⟩ := List.mem_iff_getElem?.1 hc
  rw [List.getElem?_take] at hi
  split at hi
  next hik =>
    apply not_holds_of_not_mem_positions _ hi
    intro hmem
    have := hk.2 hmem
    omega
  next => cases hi

theorem exists_position_of_eraseIdx (h : (comments.eraseIdx k)[i]? = some c) :
    ∃ j, comments[j]? = some c ∧ j ≠ k ∧ (j = i ∧ i < k ∨ j = i + 1 ∧ k ≤ i) := by
  rw [List.getElem?_eraseIdx] at h
  split at h
  next hik => exact ⟨i, h, by omega, Or.inl ⟨rfl, hik⟩⟩
  next hik => exact ⟨i + 1, h, by omega, Or.inr ⟨rfl, by omega⟩⟩

/-- **The first comment beside comment `k` with the closing marker gives the closing line.** -/
theorem closingLine?_eraseIdx (hj : IsLeast (positions m.closing comments \ {k}) j)
    (hd : comments[j]? = some d) : m.closingLine? (comments.eraseIdx k) = some d.line := by
  obtain ⟨⟨⟨e, he, hholds⟩, hjk⟩, hleast⟩ := hj
  obtain rfl : d = e := by rw [hd] at he; exact Option.some.inj he
  have hne : j ≠ k := hjk
  have hat : (comments.eraseIdx k)[if j < k then j else j - 1]? = some d := by
    rw [List.getElem?_eraseIdx]
    by_cases hlt : j < k
    · simpa [hlt] using hd
    · have hback : ¬ j - 1 < k := by omega
      have hsucc : j - 1 + 1 = j := by omega
      simpa [hlt, hback, hsucc] using hd
  obtain ⟨hlen, hat⟩ := List.getElem?_eq_some_iff.1 hat
  have hfind : (comments.eraseIdx k).find? (fun c => Text.holds m.closing c.text) = some d := by
    rw [List.find?_eq_some_iff_getElem]
    refine ⟨Text.holds_iff.2 hholds, _, hlen, hat, ?_⟩
    intro i hi
    rw [Bool.not_eq_true', ← Bool.not_eq_true, Text.holds_iff]
    intro hi'
    -- a comment further up with the marker would have a lesser position
    obtain ⟨n, hn, hnk, hpos⟩ := exists_position_of_eraseIdx (List.getElem?_eq_getElem _)
    have hle : j ≤ n := hleast ⟨⟨_, hn, hi'⟩, hnk⟩
    split at hi <;> omega
  unfold closingLine?
  rw [hfind]
  rfl

theorem closingLine?_eraseIdx_eq_none (h : positions m.closing comments \ {k} = ∅) :
    m.closingLine? (comments.eraseIdx k) = none := by
  unfold closingLine?
  rw [Option.map_eq_none_iff, List.find?_eq_none]
  intro c hc
  rw [Text.holds_iff]
  intro hholds
  obtain ⟨i, hi⟩ := List.mem_iff_getElem?.1 hc
  obtain ⟨j, hj, hjk, -⟩ := exists_position_of_eraseIdx hi
  have hmem : j ∈ positions m.closing comments \ {k} := ⟨⟨c, hj, hholds⟩, hjk⟩
  simp [h] at hmem

/-- The first comment with the opening marker, by its position. -/
theorem narrow_of_isLeast (hk : IsLeast (positions m.opening comments) k)
    (hc : comments[k]? = some c) (body : LineRange) :
    m.narrow comments body =
      ⟨c.line + 1, (m.closingLine? (comments.eraseIdx k)).getD body.last⟩ := by
  obtain ⟨e, he, hholds⟩ := hk.1
  obtain rfl : c = e := by rw [hc] at he; exact Option.some.inj he
  obtain ⟨hlen, hget⟩ := List.getElem?_eq_some_iff.1 hc
  have hsplit : comments = comments.take k ++ c :: comments.drop (k + 1) := by
    rw [← hget, List.getElem_cons_drop, List.take_append_drop]
  rw [List.eraseIdx_eq_take_drop_succ]
  conv_lhs => rw [hsplit]
  exact narrow_append_cons body (not_holds_of_mem_take hk) hholds

end MarkerPair

/-! ## Methods -/

variable {lang : Language} {t : Text} {u : Method}

/-- **The lines that markers leave of a method are lines of its body,** or the line of its opening
brace alone, which ends them if a closing marker stands there. -/
theorem narrow_in_body (m : MarkerPair) (h : u ∈ (Survey.ofText lang t).methods) :
    let scanned := m.narrow u.comments u.body
    (u.body.first ≤ scanned.first ∧ scanned.first ≤ u.body.last ∨ scanned = u.body) ∧
      u.body.first - 1 ≤ scanned.last ∧ scanned.last ≤ u.body.last := by
  intro scanned
  have hin := (liesIn_of_mem_methods h).comments_inside
  have hbraces := (liesIn_of_mem_methods h).open_le_close
  have hfirst : u.body.first = u.openLine + 1 := rfl
  have hlast : u.body.last = u.closeLine := rfl
  constructor
  · rcases MarkerPair.unopened_or_exists_first m u.comments with
      hnone | ⟨front, c, rest, hsplit, hfront, hc⟩
    · right
      exact MarkerPair.narrow_eq_self u.body hnone
    · left
      have hscanned : scanned.first = c.line + 1 := by
        simp only [scanned, hsplit]
        rw [MarkerPair.narrow_append_cons u.body hfront hc]
      have hline := hin c (by simp [hsplit])
      omega
  · rcases MarkerPair.narrow_last m u.comments u.body with heq | ⟨c, hc, heq⟩
    · have hscanned : scanned.last = u.body.last := heq
      omega
    · have hscanned : scanned.last = c.line := heq
      have hline := hin c hc
      omega

/-- **Which lines markers leave.** Without a comment that holds the opening marker they leave the
body. Otherwise they leave the lines behind the first comment that holds it, up to the line of the
first other comment that holds the closing marker, or to the end of the body if there is none. And
of a method they leave lines of its body, whatever the markers are. -/
theorem narrow_exact (m : MarkerPair) :
    (∀ (comments : List LineComment) (body : LineRange),
      (MarkerPair.positions m.opening comments = ∅ → m.narrow comments body = body) ∧
      ∀ k c, IsLeast (MarkerPair.positions m.opening comments) k → comments[k]? = some c →
        (∀ j d, IsLeast (MarkerPair.positions m.closing comments \ {k}) j →
          comments[j]? = some d → m.narrow comments body = ⟨c.line + 1, d.line⟩) ∧
        (MarkerPair.positions m.closing comments \ {k} = ∅ →
          m.narrow comments body = ⟨c.line + 1, body.last⟩)) ∧
    ∀ (lang : Language) (t : Text), ∀ u ∈ (Survey.ofText lang t).methods,
      let scanned := m.narrow u.comments u.body
      (u.body.first ≤ scanned.first ∧ scanned.first ≤ u.body.last ∨ scanned = u.body) ∧
        u.body.first - 1 ≤ scanned.last ∧ scanned.last ≤ u.body.last := by
  constructor
  · intro comments body
    constructor
    · intro hempty
      exact MarkerPair.narrow_eq_self body (MarkerPair.positions_eq_empty_iff.1 hempty)
    · intro k c hk hc
      rw [MarkerPair.narrow_of_isLeast hk hc]
      constructor
      · intro j d hj hd
        rw [MarkerPair.closingLine?_eraseIdx hj hd]
        rfl
      · intro hempty
        rw [MarkerPair.closingLine?_eraseIdx_eq_none hempty]
        rfl
  · intro lang t u hu
    exact narrow_in_body m hu

/-- The closing marker stands above the opening one and again beside it, then one of the two is
missing; and in a method the opening marker stands behind the brace. -/
theorem narrow_exact_of_inverted :
    let comments : List LineComment :=
      [⟨3, "// to".toList⟩, ⟨5, "// from to".toList⟩, ⟨7, "// from".toList⟩]
    let both : MarkerPair := ⟨"from".toList, "to".toList⟩
    let unclosed : MarkerPair := ⟨"from".toList, "until".toList⟩
    let unopened : MarkerPair := ⟨"since".toList, "to".toList⟩
    let u : Method :=
      ⟨"f".toList, 0, 0, 2, 8, 29, [⟨0, "// from".toList⟩, ⟨1, "// to".toList⟩]⟩
    (IsLeast (MarkerPair.positions both.opening comments) 1 ∧
      IsLeast (MarkerPair.positions both.closing comments \ {1}) 0 ∧
      both.narrow comments ⟨1, 9⟩ = ⟨6, 3⟩) ∧
    (MarkerPair.positions unclosed.closing comments \ {1} = ∅ ∧
      unclosed.narrow comments ⟨1, 9⟩ = ⟨6, 9⟩) ∧
    (MarkerPair.positions unopened.opening comments = ∅ ∧
      unopened.narrow comments ⟨1, 9⟩ = ⟨1, 9⟩) ∧
    u ∈ (Survey.ofText .braces "int f() \x7b // from\na(); // to\n\x7d".toList).methods ∧
      u.body.first ≤ (both.narrow u.comments u.body).first ∧
      (both.narrow u.comments u.body).first ≤ u.body.last := by
  intro comments both unclosed unopened u
  have hfirst : IsLeast (MarkerPair.positions both.opening comments) 1 := by
    refine ⟨⟨_, rfl, Text.holds_iff.1 (by decide)⟩, ?_⟩
    rintro i ⟨c, hc, hholds⟩
    apply Nat.pos_of_ne_zero
    rintro rfl
    obtain rfl := Option.some.inj hc
    exact absurd (Text.holds_iff.2 hholds) (by decide)
  have hclosing : IsLeast (MarkerPair.positions both.closing comments \ {1}) 0 :=
    ⟨⟨⟨_, rfl, Text.holds_iff.1 (by decide)⟩, by simp⟩, fun i _ => Nat.zero_le i⟩
  have hunclosed : MarkerPair.positions unclosed.closing comments \ {1} = ∅ := by
    have hnone : ∀ c ∈ comments, ¬ unclosed.closing <:+: c.text := by
      simp only [← Text.holds_iff]
      decide
    rw [MarkerPair.positions_eq_empty_iff.2 hnone, Set.empty_sdiff]
  have hunopened : MarkerPair.positions unopened.opening comments = ∅ := by
    apply MarkerPair.positions_eq_empty_iff.2
    simp only [← Text.holds_iff]
    decide
  have hmethod : u ∈ (Survey.ofText .braces
      "int f() \x7b // from\na(); // to\n\x7d".toList).methods := by decide +kernel
  have hbody := (narrow_exact both).2 .braces _ u hmethod
  refine ⟨⟨hfirst, hclosing, ?_⟩, ⟨hunclosed, ?_⟩, ⟨hunopened, ?_⟩, hmethod, ?_⟩
  · exact (((narrow_exact both).1 comments ⟨1, 9⟩).2 1 _ hfirst rfl).1 0 _ hclosing rfl
  · exact (((narrow_exact unclosed).1 comments ⟨1, 9⟩).2 1 _ hfirst rfl).2 hunclosed
  · exact ((narrow_exact unopened).1 comments ⟨1, 9⟩).1 hunopened
  · exact hbody.1.resolve_right (by decide)

end CodeFolding
