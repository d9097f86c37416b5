import CodeFolding.Proofs.Token.Place
import CodeFolding.Proofs.Token.Returns
import CodeFolding.Survey
/-!
# The survey of a file and the two ways to end a line

The survey of the text with returns, read token by token beside the survey of the text. Main
statement: they agree in the lines that begin with a comment, in the documentation but for its
returns, and in the methods but for their offsets, which move with the returns in front of them
(`survey_withReturns`).
-/
namespace CodeFolding

/-! ## Flags and documentation -/

theorem LineFlags.read_return (isComment : Bool) (s : LineFlags) : s.read isComment '\r' = s := by
  have hblank : isBlank '\r' = true := by decide
  rw [LineFlags.read, if_neg (by decide), if_pos hblank]

theorem LineFlags.foldl_read_withReturns (isComment : Bool) (t : Text) (s : LineFlags) :
    (Text.withReturns t).foldl (read isComment) s = t.foldl (read isComment) s := by
  induction t generalizing s with
  | nil => rfl
  | cons c t ih =>
    by_cases hc : c = '\n'
    · rw [hc, Text.withReturns_feed, List.foldl_cons, read_return, List.foldl_cons, List.foldl_cons,
        ih]
    · rw [Text.withReturns_cons hc, List.foldl_cons, List.foldl_cons, ih]

/-- **Returns are blank, so no flag depends on them.** -/
theorem Returned.flagLines_eq {ks ks' : List Token} (h : Returned ks ks') :
    flagLines ks' = flagLines ks := by
  have hfold : ∀ s : LineFlags,
      ks'.foldl LineFlags.readToken s = ks.foldl LineFlags.readToken s := by
    induction h with
    | nil => exact fun s => rfl
    | feed _ ih =>
      intro s
      rw [List.foldl_cons, List.foldl_cons, List.foldl_cons, ih]
      congr 2
    | @joined k ks ks' _ _ ih =>
      intro s
      rw [List.foldl_cons, List.foldl_cons, List.foldl_cons, List.foldl_cons, ih]
      congr 2
      rw [LineFlags.readToken, List.foldl_append, LineFlags.foldl_read_withReturns, List.foldl_cons,
        List.foldl_nil, LineFlags.read_return]
      rfl
    | @same k ks ks' _ _ ih =>
      intro s
      rw [List.foldl_cons, List.foldl_cons, ih]
      congr 1
      exact LineFlags.foldl_read_withReturns _ k.text s
  rw [flagLines, flagLines, hfold]

theorem isDoc_withReturns (kind : TokenKind) (text : Text) :
    Language.braces.isDoc ⟨kind, Text.withReturns text⟩ = Language.braces.isDoc ⟨kind, text⟩ := by
  have hshort : (Text.withReturns text != ['/', '*', '*', '/']) =
      (text != ['/', '*', '*', '/']) := by
    rw [Bool.eq_iff_iff, bne_iff_ne, bne_iff_ne, Ne,
      Text.withReturns_eq_iff (by decide) (by decide)]
  have hsign : ['/', '*', '*'].isPrefixOf (Text.withReturns text) =
      ['/', '*', '*'].isPrefixOf text := Text.isPrefixOf_withReturns (by decide) (by decide)
  simp only [Language.isDoc, Language.comments, Option.any_some, hshort, hsign]

/-- **The documentation gets its returns and does not change otherwise.** -/
theorem Returned.docComments_eq {ks ks' : List Token} (h : Returned ks ks') :
    Language.braces.docComments ks' = (Language.braces.docComments ks).map Text.withReturns := by
  have hother : ∀ {kind : TokenKind} (text : Text), kind ≠ .blockComment →
      ¬ Language.braces.isDoc ⟨kind, text⟩ = true := by
    intro kind text hkind
    simp [Language.isDoc, hkind]
  rw [Language.docComments, Language.docComments, List.map_map]
  induction h with
  | nil => rfl
  | feed _ ih =>
    rw [List.filter_cons_of_neg (hother _ (by simp)), List.filter_cons_of_neg (hother _ (by simp)),
      List.filter_cons_of_neg (hother _ (by simp)), ih]
  | @joined k ks ks' hk _ ih =>
    have hkind : k.kind ≠ .blockComment := by
      rcases hk with ⟨hk, -⟩ | hk <;> simp [hk]
    rw [List.filter_cons_of_neg (hother _ hkind), List.filter_cons_of_neg (hother _ (by simp)),
      List.filter_cons_of_neg (hother k.text hkind), List.filter_cons_of_neg (hother _ (by simp)),
      ih]
  | @same k ks ks' _ _ ih =>
    rw [List.filter_cons, List.filter_cons, isDoc_withReturns]
    split
    · rw [List.map_cons, List.map_cons, ih]
      rfl
    · exact ih

/-! ## Offsets that move -/

/-- What is known about a file reads of `k'` what it reads of `k`, but for the offset. -/
structure PlacedToken.Moved (φ : Nat → Nat) (k k' : PlacedToken) : Prop where
  kind_eq : k'.kind = k.kind
  line_eq : k'.line = k.line
  offset_eq : k'.offset = φ k.offset
  endLine_eq : k'.endLine = k.endLine
  code_eq : k.kind = .code → k'.text = k.text
  comment_eq : k.kind = .lineComment → Text.dropReturns k'.text = Text.dropReturns k.text

/-- The second list of tokens is the first one with moved offsets, up to line feeds, whose offsets
nothing depends on, and the returns in front of them. -/
inductive Aligned (φ : Nat → Nat) : List PlacedToken → List PlacedToken → Prop where
  | nil : Aligned φ [] []
  | feed {k k' : PlacedToken} {ks ks' : List PlacedToken} :
      k.kind = .newline → k'.kind = .newline → Aligned φ ks ks' → Aligned φ (k :: ks) (k' :: ks')
  | returned {j k k' : PlacedToken} {ks ks' : List PlacedToken} :
      k.kind = .newline → j.kind = .blank → k'.kind = .newline → Aligned φ ks ks' →
      Aligned φ (k :: ks) (j :: k' :: ks')
  | moved {k k' : PlacedToken} {ks ks' : List PlacedToken} :
      k.Moved φ k' → Aligned φ ks ks' → Aligned φ (k :: ks) (k' :: ks')

/-- A token behind `front` is moved by the returns in `front`. -/
theorem PlacedToken.moved_of_text {k : Token} {text : Text} (front rest : Text)
    (hlines : Text.newlines text = Text.newlines k.text) (hcode : k.kind = .code → text = k.text)
    (hcomment : k.kind = .lineComment → Text.dropReturns text = Text.dropReturns k.text) :
    Moved (Text.moved (front ++ rest)) ⟨k, Text.size front, Text.newlines front⟩
      ⟨⟨k.kind, text⟩, Text.size (Text.withReturns front), Text.newlines front⟩ := by
  refine ⟨rfl, rfl, (Text.moved_size front rest).symm, ?_, hcode, hcomment⟩
  rw [endLine, endLine, hlines]

/-- **The tokens of both texts are aligned once they are placed.** -/
theorem Returned.aligned {ks ks' : List Token} (h : Returned ks ks') (front : Text) :
    Aligned (Text.moved (front ++ ks.flatMap Token.text))
      (PlacedToken.placeFrom (Text.size front) (Text.newlines front) ks)
      (PlacedToken.placeFrom (Text.size (Text.withReturns front)) (Text.newlines front) ks') := by
  have hfeed : Text.newlines ['\r'] = 0 := by decide
  induction h generalizing front with
  | nil => exact .nil
  | @feed ks ks' _ ih =>
    have hrest := ih (front ++ ['\n'])
    rw [List.append_assoc, Text.size_append, Text.newlines_append, Text.withReturns_append,
      Text.size_append, Text.withReturns_feed, Text.withReturns_nil] at hrest
    simp only [PlacedToken.placeFrom, hfeed, Nat.add_zero, Nat.add_assoc]
    exact .returned rfl rfl rfl hrest
  | @joined k ks ks' hk _ ih =>
    have hlines : Text.newlines (Text.withReturns k.text ++ ['\r']) = Text.newlines k.text := by
      rw [Text.newlines_append, hfeed, Text.newlines_withReturns, Nat.add_zero]
    have hrest := ih (front ++ (k.text ++ ['\n']))
    simp only [List.append_assoc, Text.size_append, Text.newlines_append, Text.withReturns_append,
      Text.withReturns_feed, Text.withReturns_nil] at hrest
    simp only [PlacedToken.placeFrom, hlines, Text.size_append, Nat.add_assoc]
    refine .moved (PlacedToken.moved_of_text front _ hlines ?_ ?_) (.feed rfl rfl hrest)
    · intro hcode
      simp [hcode] at hk
    · intro hcomment
      rcases hk with ⟨-, hrow⟩ | hliteral
      · rw [Text.dropReturns_append_return, Text.withReturns_of_not_mem hrow]
      · simp [hcomment] at hliteral
  | @same k ks ks' hk _ ih =>
    have hlines := Text.newlines_withReturns k.text
    have hrest := ih (front ++ k.text)
    rw [List.append_assoc, Text.size_append, Text.newlines_append, Text.withReturns_append,
      Text.size_append] at hrest
    rw [List.flatMap_cons, PlacedToken.placeFrom, PlacedToken.placeFrom, hlines]
    refine .moved (PlacedToken.moved_of_text front _ hlines ?_ ?_) hrest
    · intro hcode
      rw [Text.withReturns_of_not_mem (hk.resolve_right (by simp [hcode]))]
    · intro hcomment
      rw [Text.withReturns_of_not_mem (hk.resolve_right (by simp [hcomment]))]

/-! ## Methods -/

/-- The brace at a moved offset. -/
def OpenBrace.moved (φ : Nat → Nat) (b : OpenBrace) : OpenBrace := { b with offset := φ b.offset }

/-- The method with its braces at moved offsets. -/
def Method.moved (φ : Nat → Nat) (m : Method) : Method :=
  { m with openOffset := φ m.openOffset, closeOffset := φ m.closeOffset }

namespace BraceState

/-- What is known, with all offsets moved. -/
def moved (φ : Nat → Nat) (s : BraceState) : BraceState :=
  { s with braces := s.braces.map (OpenBrace.moved φ), methods := s.methods.map (Method.moved φ) }

variable {φ : Nat → Nat}

theorem openBrace_moved (s : BraceState) (line offset : Nat) :
    (s.moved φ).openBrace line (φ offset) = (s.openBrace line offset).moved φ := rfl

theorem closeBrace_moved (s : BraceState) (line offset : Nat) :
    (s.moved φ).closeBrace line (φ offset) = (s.closeBrace line offset).moved φ := by
  obtain ⟨header, braces, methods⟩ := s
  cases braces with
  | nil => rfl
  | cons b outer =>
    obtain ⟨method, line, offset⟩ := b
    cases method with
    | none => rfl
    | some found => rfl

theorem read_moved {k k' : PlacedToken} (h : k.Moved φ k') (s : BraceState) :
    (s.moved φ).read k' = (s.read k).moved φ := by
  rw [read, read, h.kind_eq]
  cases hk : k.kind with
  | newline => rfl
  | blank => rfl
  | lineComment => rfl
  | blockComment => rfl
  | literal =>
    rw [h.endLine_eq]
    rfl
  | code =>
    rw [h.code_eq hk, h.line_eq, h.offset_eq]
    dsimp only
    split
    · exact openBrace_moved s k.line k.offset
    · exact closeBrace_moved s k.line k.offset
    · rfl
    · rfl

theorem read_blank {k : PlacedToken} (h : k.kind = .newline ∨ k.kind = .blank) (s : BraceState) :
    s.read k = { s with header := s.header.addBlank } := by
  rcases h with h | h <;> rw [read, h]

end BraceState

theorem HeaderText.addBlank_addBlank (h : HeaderText) : h.addBlank.addBlank = h.addBlank := by
  obtain ⟨reversed, line⟩ := h
  cases reversed with
  | nil => rfl
  | cons c rest =>
    by_cases hc : c = ' '
    · subst hc
      rfl
    · have hadd : addBlank ⟨c :: rest, line⟩ = ⟨' ' :: c :: rest, line⟩ := by simp [addBlank, hc]
      rw [hadd]
      rfl

theorem Aligned.foldl_read {φ : Nat → Nat} {ks ks' : List PlacedToken} (h : Aligned φ ks ks')
    (s : BraceState) :
    ks'.foldl BraceState.read (s.moved φ) = (ks.foldl BraceState.read s).moved φ := by
  induction h generalizing s with
  | nil => rfl
  | feed hk hk' _ ih =>
    rw [List.foldl_cons, List.foldl_cons, BraceState.read_blank (Or.inl hk),
      BraceState.read_blank (Or.inl hk'), ← ih]
    rfl
  | returned hk hj hk' _ ih =>
    rw [List.foldl_cons, List.foldl_cons, List.foldl_cons, BraceState.read_blank (Or.inl hk),
      BraceState.read_blank (Or.inr hj), BraceState.read_blank (Or.inl hk'), ← ih]
    congr 1
    rw [HeaderText.addBlank_addBlank]
    rfl
  | moved hk _ ih => rw [List.foldl_cons, List.foldl_cons, BraceState.read_moved hk, ih]

theorem Aligned.lineComments_eq {φ : Nat → Nat} {ks ks' : List PlacedToken} (h : Aligned φ ks ks') :
    lineComments ks' = (lineComments ks).map fun c => (φ c.1, c.2) := by
  have hnone : ∀ {k : PlacedToken}, k.kind = .newline ∨ k.kind = .blank →
      k.lineComment? = none := by
    intro k hk
    rcases hk with hk | hk <;> simp [PlacedToken.lineComment?, hk]
  rw [lineComments, lineComments, List.map_filterMap]
  induction h with
  | nil => rfl
  | feed hk hk' _ ih =>
    rw [List.filterMap_cons, List.filterMap_cons, hnone (Or.inl hk), hnone (Or.inl hk'), ih]
    rfl
  | returned hk hj hk' _ ih =>
    rw [List.filterMap_cons, List.filterMap_cons, List.filterMap_cons, hnone (Or.inl hk),
      hnone (Or.inr hj), hnone (Or.inl hk'), ih]
    rfl
  | @moved k k' ks ks' hk _ ih =>
    have hcomment : k'.lineComment? = k.lineComment?.map fun c => (φ c.1, c.2) := by
      by_cases hline : k.kind = .lineComment
      · simp [PlacedToken.lineComment?, hk.kind_eq, hline, hk.offset_eq, hk.line_eq,
          hk.comment_eq hline]
      · simp [PlacedToken.lineComment?, hk.kind_eq, hline]
    rw [List.filterMap_cons, List.filterMap_cons, hcomment, ih]

namespace Survey

theorem methodFrames_withReturns {φ : Nat → Nat} (hφ : ∀ m n, φ m ≤ φ n ↔ m ≤ n)
    {ks ks' : List PlacedToken} (h : Aligned φ ks ks') :
    Language.braces.methodFrames ks' =
      (Language.braces.methodFrames ks).map (Method.moved φ) := by
  have hmethods := congrArg BraceState.methods (h.foldl_read {})
  have hfold : (ks'.foldl BraceState.read {}).methods =
      (ks.foldl BraceState.read {}).methods.map (Method.moved φ) := hmethods
  rw [Language.methodFrames, Language.methodFrames, if_pos rfl, if_pos rfl, hfold]
  symm
  refine List.map_mergeSort fun m _ n _ => ?_
  simp [Method.moved, hφ]

theorem withComments_moved {φ : Nat → Nat} (hφ : ∀ m n, φ m < φ n ↔ m < n)
    (comments : List (Nat × LineComment)) (m : Method) :
    (m.moved φ).withComments (comments.map fun c => (φ c.1, c.2)) =
      (m.withComments comments).moved φ := by
  simp [Method.withComments, Method.moved, Method.encloses, List.filter_map, Function.comp_def, hφ]

end Survey

/-- **The survey of the text with returns is that of the text, with moved offsets**, if no string
goes on behind the end of a line. -/
theorem survey_withReturns {t : Text}
    (h : ∀ k ∈ Language.braces.tokens t, k.isContinued = false) :
    let v := Survey.ofText .braces t
    let v' := Survey.ofText .braces (Text.withReturns t)
    v'.methods = v.methods.map (Method.moved (Text.moved t)) ∧
      v'.commentFlags = v.commentFlags ∧
      v'.docComments = v.docComments.map Text.withReturns := by
  intro v v'
  have hreturned := Language.returned_tokens h
  have haligned := hreturned.aligned []
  rw [List.nil_append, Language.flatMap_tokens] at haligned
  have hplaced : Aligned (Text.moved t) (PlacedToken.place (Language.braces.tokens t))
      (PlacedToken.place (Language.braces.tokens (Text.withReturns t))) := by
    rw [PlacedToken.place_eq, PlacedToken.place_eq]
    exact haligned
  refine ⟨?_, hreturned.flagLines_eq, hreturned.docComments_eq⟩
  simp only [v, v', Survey.ofText]
  rw [Survey.methodFrames_withReturns (Text.moved_le_iff t) hplaced, hplaced.lineComments_eq,
    List.map_map, List.map_map]
  exact List.map_congr_left fun m _ => Survey.withComments_moved (Text.moved_lt_iff t) _ m

end CodeFolding
