import CodeFolding.Proofs.Survey.Flags
import CodeFolding.Proofs.Survey.Opaque
/-!
# One token exchanged

A comment or a literal on one line gives way to another of its kind and size. What a survey says of
the file then stays, but for the text of a line comment that is exchanged. Main statements: the
line comments of such files (`exists_lineComments`) and their surveys (`exists_survey`).
-/
namespace CodeFolding

variable {lang : Language} {kind : TokenKind} {piece piece' : Text} {ks ls : List Token}

/-- A piece of one line that begins with a character that is not blank. -/
def Text.IsInk (piece : Text) : Prop :=
  (∃ c rest, piece = c :: rest ∧ isBlank c = false) ∧ '\n' ∉ piece

/-- A comment or a literal on one line counts for its line by its kind. -/
theorem flagLines_exchange (h : piece.IsInk) (h' : piece'.IsInk) :
    flagLines (ks ++ ⟨kind, piece⟩ :: ls) = flagLines (ks ++ ⟨kind, piece'⟩ :: ls) := by
  obtain ⟨⟨c, rest, rfl, hink⟩, hfeed⟩ := h
  obtain ⟨⟨c', rest', rfl, hink'⟩, hfeed'⟩ := h'
  have hread : ∀ f : LineFlags,
      f.readToken ⟨kind, c :: rest⟩ = f.readToken ⟨kind, c' :: rest'⟩ := by
    intro f
    rw [LineFlags.readToken, LineFlags.readToken]
    exact (LineFlags.foldl_read_row hink hfeed).trans (LineFlags.foldl_read_row hink' hfeed').symm
  simp only [flagLines, List.foldl_append, List.foldl_cons, hread]

theorem docComments_exchange (hkind : kind ≠ .blockComment) :
    lang.docComments (ks ++ ⟨kind, piece⟩ :: ls) =
      lang.docComments (ks ++ ⟨kind, piece'⟩ :: ls) := by
  have hdoc : ∀ text, lang.isDoc ⟨kind, text⟩ = false := fun text => by
    simp [Language.isDoc, hkind]
  simp [Language.docComments, List.filter_append, hdoc]

/-- **The line comments beside a token are the same for all tokens of its measures.** -/
theorem exists_lineComments (ks ls : List Token) (n m : Nat) :
    ∃ above below, ∀ kind piece, Text.size piece = n → Text.newlines piece = m →
      lineComments (PlacedToken.place (ks ++ ⟨kind, piece⟩ :: ls)) =
        above ++ (PlacedToken.lineComment? ⟨⟨kind, piece⟩, Text.size (ks.flatMap Token.text),
          Text.newlines (ks.flatMap Token.text)⟩).toList ++ below := by
  refine ⟨lineComments (PlacedToken.placeFrom 0 0 ks), lineComments (PlacedToken.placeFrom
    (Text.size (ks.flatMap Token.text) + n) (Text.newlines (ks.flatMap Token.text) + m) ls), ?_⟩
  intro kind piece hsize hlines
  simp only [PlacedToken.place_eq, PlacedToken.placeFrom_append, PlacedToken.placeFrom,
    lineComments, List.filterMap_append, List.filterMap_cons, hsize, hlines, Nat.zero_add]
  cases PlacedToken.lineComment? _ <;> simp

theorem methodFrames_exchange (hplain : kind.isOpaque = true)
    (hsize : Text.size piece = Text.size piece')
    (hlines : Text.newlines piece = Text.newlines piece') :
    lang.methodFrames (PlacedToken.place (ks ++ ⟨kind, piece⟩ :: ls)) =
      lang.methodFrames (PlacedToken.place (ks ++ ⟨kind, piece'⟩ :: ls)) := by
  rw [Language.methodFrames, Language.methodFrames,
    BraceState.foldl_read_eq_of_isOpaque hplain hsize hlines]

/-- **What a survey says of a file with an exchangeable token.** For all comments, or all literals,
of one size that can stand in one place on one line the survey is the same, but for the line comment
that the token may be. -/
theorem exists_survey (lang : Language) (front behind : Text) (n : Nat)
    (hkind : kind = .lineComment ∨ kind = .literal) :
    ∃ (frames : List Method) (above below : List (Nat × LineComment)) (docs : List Text)
      (flags : Array Bool), ∀ piece, lang.CutsOut front piece behind kind →
      piece.IsInk → Text.size piece = n →
        Survey.ofText lang (front ++ piece ++ behind) =
          ⟨lang, docs, frames.map (Method.withComments (above ++ (PlacedToken.lineComment?
            ⟨⟨kind, piece⟩, Text.size front, Text.newlines front⟩).toList ++ below)), flags⟩ := by
  have hplain : kind.isOpaque = true := by rcases hkind with rfl | rfl <;> rfl
  have hdoc : kind ≠ .blockComment := by rcases hkind with rfl | rfl <;> decide
  by_cases hsome : ∃ model, lang.CutsOut front model behind kind ∧ model.IsInk ∧ Text.size model = n
  · obtain ⟨model, hmodel, hink, hn⟩ := hsome
    obtain ⟨ks, ls, hcut, hfront⟩ := hmodel
    have hlines : ∀ {piece : Text}, piece.IsInk → Text.newlines piece = 0 :=
      fun h => Text.newlines_eq_zero_iff.2 h.2
    obtain ⟨above, below, hcomments⟩ := exists_lineComments ks ls n 0
    refine ⟨lang.methodFrames (PlacedToken.place (ks ++ ⟨kind, model⟩ :: ls)), above, below,
      lang.docComments (ks ++ ⟨kind, model⟩ :: ls), flagLines (ks ++ ⟨kind, model⟩ :: ls), ?_⟩
    intro piece hpiece hinkpiece hsize
    have hframes : lang.methodFrames (PlacedToken.place (ks ++ ⟨kind, piece⟩ :: ls)) =
        lang.methodFrames (PlacedToken.place (ks ++ ⟨kind, model⟩ :: ls)) :=
      methodFrames_exchange hplain (hsize.trans hn.symm)
        ((hlines hinkpiece).trans (hlines hink).symm)
    have hdocs : lang.docComments (ks ++ ⟨kind, piece⟩ :: ls) =
        lang.docComments (ks ++ ⟨kind, model⟩ :: ls) := docComments_exchange hdoc
    rw [Survey.ofText, Language.CutsOut.tokens_exchange hcut hfront hpiece, hframes, hdocs,
      hcomments kind piece hsize (hlines hinkpiece), flagLines_exchange hinkpiece hink, hfront]
  · exact ⟨[], [], [], [], #[], fun piece hcut hink hsize =>
      absurd ⟨piece, hcut, hink, hsize⟩ hsome⟩

end CodeFolding
