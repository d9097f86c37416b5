import CodeFolding.Proofs.Scanner.Round
/-!
# The run of the scanner

The scanner goes through a text once, round by round. What can go wrong on the way is a fault: a
slice that is none, an index that the flags of the lines do not have, a count that falls below zero,
a round too many. Main statement: nothing goes wrong, the rounds tile the text, and what is known at
the end is the survey of the text (`scan_tiles`).
-/
namespace CodeFolding

open Text PlacedToken

namespace Scanner

/-- Rounds up to the end of the text, at most `fuel`, and what is known behind them. -/
def run (lang : Language) (src : Text) :
    (fuel : Nat) → Scanner → Except Fault (List Round × Scanner)
  | 0, s => if s.offset < size src then .error .endless else .ok ([], s)
  | fuel + 1, s => do
    if s.offset < size src then
      match ← s.round? lang src with
      | none => return ([], s)
      | some r =>
        let (rounds, last) ← run lang src fuel r.after
        return (r :: rounds, last)
    else return ([], s)

/-- The rounds through a text, of which there are at most as many as it has bytes. -/
def scan (lang : Language) (src : Text) : Except Fault (List Round × Scanner) :=
  run lang src (size src) {}

/-- What is known at the end, as a survey. -/
def survey (lang : Language) (s : Scanner) : Survey where
  language := lang
  docComments := s.docs
  methods := (s.braces.methods.mergeSort fun m n => m.openOffset ≤ n.openOffset).map
    (Method.withComments s.comments)
  commentFlags := s.lines.flags

/-! ## Runs through the tokens of a text -/

variable {lang : Language} {src : Text} {ks ls : List PlacedToken}

/-- The rounds that read `ls` behind `ks`. -/
def roundsBehind (lang : Language) : (ks ls : List PlacedToken) → List Round
  | _, [] => []
  | ks, k :: ls =>
    ⟨k.kind, k.offset, behind lang (ks ++ [k])⟩ :: roundsBehind lang (ks ++ [k]) ls

theorem round?_of_placed {k : PlacedToken} (h : lang.placed src = ks ++ k :: ls) :
    (behind lang ks).round? lang src =
      .ok (some ⟨k.kind, k.offset, behind lang (ks ++ [k])⟩) := by
  have hbegins := Language.beginsWith_of_append (Language.tokens_of_placed h)
  rw [flatMap_text_map] at hbegins
  obtain ⟨hoffset, hline⟩ := Language.place_of_append h
  have hnext : next ks k.kind k.text = k := by
    rw [next, ← hoffset, ← hline]
  have hround := round?_behind ks hbegins
  rwa [← Language.split_of_placed h, List.take_left, hnext, ← hoffset] at hround

theorem size_of_placed {k : PlacedToken} (h : lang.placed src = ks ++ k :: ls) :
    0 < size k.text ∧ size src = size (spelled ks) + (size k.text + size (spelled ls)) := by
  have hmem : k ∈ lang.placed src := by
    rw [h]
    simp
  refine ⟨size_pos (Language.text_ne_nil_of_mem_placed hmem), ?_⟩
  rw [Language.split_of_placed h, size_append, size_append]

theorem spelled_of_placed (h : lang.placed src = ks ++ []) : spelled ks = src := by
  rw [← Language.spelled_placed lang src, h, List.append_nil]

/-- **A run behind some tokens of a text reads the others, without a fault.** -/
theorem run_behind {fuel : Nat} (h : lang.placed src = ks ++ ls)
    (hfuel : size src ≤ size (spelled ks) + fuel) :
    run lang src fuel (behind lang ks) = .ok (roundsBehind lang ks ls, behind lang (ks ++ ls)) := by
  induction ls generalizing ks fuel with
  | nil =>
    have hstop : ¬ (behind lang ks).offset < size src := by
      rw [offset_behind, spelled_of_placed h]
      exact Nat.lt_irrefl _
    rw [List.append_nil]
    cases fuel <;> rw [run, if_neg hstop] <;> rfl
  | cons k ls ih =>
    obtain ⟨hpos, hsize⟩ := size_of_placed h
    obtain ⟨fuel, rfl⟩ := Nat.exists_eq_add_one.2 (show 0 < fuel by omega)
    have hgo : (behind lang ks).offset < size src := by
      rw [offset_behind]
      omega
    have hrest : run lang src fuel (behind lang (ks ++ [k])) =
        .ok (roundsBehind lang (ks ++ [k]) ls, behind lang (ks ++ [k] ++ ls)) :=
      ih (by rw [h]; simp) (by simp; omega)
    rw [run, if_pos hgo, round?_of_placed h, Fault.ok_bind]
    dsimp only
    rw [hrest, Fault.ok_bind, List.append_assoc]
    rfl

end Scanner

/-! ## Tilings -/

namespace Text

/-- Between two characters of a text, or at an end of it. -/
def IsBoundary (t : Text) (n : Nat) : Prop := ∃ front rest, t = front ++ rest ∧ size front = n

/-- Spans that begin at an offset, each where the one in front of it ends, and of which the last
one ends with the text. Each ends further on, between two characters. -/
inductive Tiles (t : Text) : Nat → List (Nat × Nat) → Prop where
  | nil : Tiles t (size t) []
  | cons {first stop : Nat} {spans : List (Nat × Nat)} : first < stop → stop ≤ size t →
      t.IsBoundary stop → Tiles t stop spans → Tiles t first ((first, stop) :: spans)

end Text

namespace Scanner

variable {lang : Language} {src : Text} {ks ls : List PlacedToken}

/-- **The rounds behind some tokens tile the rest of the text.** -/
theorem tiles_roundsBehind (h : lang.placed src = ks ++ ls) :
    src.Tiles (size (spelled ks)) ((roundsBehind lang ks ls).map Round.span) := by
  induction ls generalizing ks with
  | nil =>
    rw [spelled_of_placed h]
    exact .nil
  | cons k ls ih =>
    obtain ⟨hpos, hsize⟩ := size_of_placed h
    have hstop : size (spelled (ks ++ [k])) = size (spelled ks) + size k.text := by simp
    have hsplit : src = spelled (ks ++ [k]) ++ spelled ls := by
      rw [Language.split_of_placed h]
      simp
    rw [roundsBehind, List.map_cons, Round.span, (Language.place_of_append h).1, offset_behind]
    refine .cons (by omega) (by omega) ⟨_, _, hsplit, rfl⟩ (ih ?_)
    rw [h]
    simp

/-- **Each round spans the text of its token.** -/
theorem slices_roundsBehind (h : lang.placed src = ks ++ ls) :
    ((roundsBehind lang ks ls).map fun r => (r.kind, src.slice r.start r.after.offset)) =
      ls.map fun k => (k.kind, .ok k.text) := by
  induction ls generalizing ks with
  | nil => rfl
  | cons k ls ih =>
    have hslice : src.slice k.offset (size (spelled (ks ++ [k]))) = .ok k.text := by
      have hstop : size (spelled (ks ++ [k])) = size (spelled ks) + size k.text := by simp
      rw [hstop, (Language.place_of_append h).1, Language.split_of_placed h]
      exact slice_append _ _ _
    rw [roundsBehind, List.map_cons, List.map_cons, ih (by rw [h]; simp), offset_behind, hslice]

theorem exists_eq_behind_of_mem {r : Round} (h : r ∈ roundsBehind lang ks ls) :
    ∃ js, r.after = behind lang js := by
  induction ls generalizing ks with
  | nil => simp [roundsBehind] at h
  | cons k ls ih =>
    rw [roundsBehind, List.mem_cons] at h
    rcases h with rfl | h
    · exact ⟨_, rfl⟩
    · exact ih h

/-- **What is known at the end is the survey.** -/
theorem survey_behind (lang : Language) (t : Text) :
    (behind lang (lang.placed t)).survey lang = Survey.ofText lang t := by
  have hmethods : ((behind lang (lang.placed t)).braces.methods.mergeSort
      fun m n => m.openOffset ≤ n.openOffset) = lang.methodFrames (lang.placed t) := by
    rw [behind, BraceState.seenBy, Language.methodFrames]
    split
    · rfl
    · exact List.mergeSort_nil
  rw [survey, hmethods, behind, flagsBehind, Language.map_toToken_placed]
  rfl

end Scanner

/-- A line feed, another blank or code is one character. -/
theorem Language.length_eq_one_of_mem_tokens {lang : Language} {t : Text} {k : Token}
    (h : k ∈ lang.tokens t) (hkind : k.kind ∈ [.newline, .blank, .code]) : k.text.length = 1 := by
  obtain ⟨ks, ls, hsplit⟩ := List.append_of_mem h
  have hbegins := beginsWith_of_append hsplit
  generalize k.text ++ ls.flatMap Token.text = rest at hbegins
  generalize k.text.length = n at hbegins ⊢
  simp only [List.mem_cons, List.not_mem_nil, or_false] at hkind
  rcases hkind with hk | hk | hk <;>
  · rw [hk] at hbegins
    cases hbegins
    rfl

/-- **The scanner is total and its rounds tile the text.** For every text and every extension the
run ends after at most as many rounds as the text has bytes, and no slice, index or difference
fails in it. Each round ends further on, between two characters; each begins where the one in front
of it ends, the first at the beginning, the last one ends with the text, and each spans one token:
a comment, a literal or a single character. The running line always has its flag. What is known at
the end is the survey of the text. No header at all makes the recognition of methods fail. -/
theorem scan_tiles (ext : String) (t : Text) :
    let lang := Language.ofExtension ext
    (∃ rounds last, Scanner.scan lang t = .ok (rounds, last) ∧
      t.Tiles 0 (rounds.map Round.span) ∧
      (rounds.map fun r => (r.kind, t.slice r.start r.after.offset)) =
        ((lang.tokens t).map fun k => (k.kind, .ok k.text)) ∧
      (∀ k ∈ lang.tokens t, k.kind ∈ [.newline, .blank, .code] → k.text.length = 1) ∧
      (∀ r ∈ rounds, r.after.lines.line < r.after.lines.flags.size) ∧
      last.survey lang = Survey.ofText lang t) ∧
    ∀ header, Header.sliceMethod? header = .ok (Header.method? header) := by
  intro lang
  have hplaced : lang.placed t = [] ++ lang.placed t := rfl
  refine ⟨⟨Scanner.roundsBehind lang [] (lang.placed t), Scanner.behind lang (lang.placed t),
    ?_, ?_, ?_, ?_, ?_, ?_⟩, Header.sliceMethod?_eq⟩
  · rw [Scanner.scan, ← Scanner.behind_nil lang]
    exact Scanner.run_behind hplaced (Nat.le_add_left _ _)
  · exact Scanner.tiles_roundsBehind hplaced
  · rw [Scanner.slices_roundsBehind hplaced, ← Language.map_toToken_placed, List.map_map]
    rfl
  · exact fun k hk => Language.length_eq_one_of_mem_tokens hk
  · intro r hr
    obtain ⟨js, hjs⟩ := Scanner.exists_eq_behind_of_mem hr
    rw [hjs]
    exact Scanner.line_lt_size_behind
  · exact Scanner.survey_behind lang t

end CodeFolding
