import CodeFolding.Proofs.Token.Boundary
import CodeFolding.Proofs.Token.Place
import CodeFolding.Survey
/-!
# What comments and literals say does not matter

The search for methods passes over a comment and puts the same stand-in for every literal, so of
such a token it reads the kind and the place. Main statement: where one comment or literal is
exchanged for another of its kind, size and number of lines, the file has the same methods, whatever
the two say (`methods_eq_of_cutsOut`).
-/
namespace CodeFolding

/-! ## One token exchanged -/

/-- The lexer cuts the text `front ++ piece ++ behind` at both ends of `piece` and takes `piece`
as one token of the given kind. -/
def Language.CutsOut (lang : Language) (front piece behind : Text) (kind : TokenKind) : Prop :=
  ∃ ks ls, lang.tokens (front ++ piece ++ behind) = ks ++ ⟨kind, piece⟩ :: ls ∧
    ks.flatMap Token.text = front

namespace Language.CutsOut

variable {lang : Language} {front piece piece' behind : Text} {kind : TokenKind}

theorem of_tokens (h : lang.tokens (front ++ piece ++ behind) =
      lang.tokens front ++ ⟨kind, piece⟩ :: lang.tokens behind) :
    lang.CutsOut front piece behind kind :=
  ⟨_, _, h, flatMap_tokens _ _⟩

theorem tokens_eq {ks ls : List Token}
    (h : lang.tokens (front ++ piece ++ behind) = ks ++ ⟨kind, piece⟩ :: ls)
    (hks : ks.flatMap Token.text = front) : ls = lang.tokens behind := by
  have hls : ls.flatMap Token.text = behind := by
    have htext := flatMap_tokens lang (front ++ piece ++ behind)
    rw [h, List.flatMap_append, List.flatMap_cons, hks, ← List.append_assoc] at htext
    exact List.append_cancel_left htext
  rw [← hls]
  exact eq_tokens_of_append (h.trans (List.append_cons ks ⟨kind, piece⟩ ls))

theorem tokens_exchange {ks ls : List Token}
    (hcut : lang.tokens (front ++ piece ++ behind) = ks ++ ⟨kind, piece⟩ :: ls)
    (hfront : ks.flatMap Token.text = front) (h' : lang.CutsOut front piece' behind kind) :
    lang.tokens (front ++ piece' ++ behind) = ks ++ ⟨kind, piece'⟩ :: ls := by
  obtain ⟨ks', ls', hcut', hfront'⟩ := h'
  obtain rfl := eq_of_common_front hcut hcut' (hfront.trans hfront'.symm)
  obtain rfl := tokens_eq hcut hfront
  obtain rfl := tokens_eq hcut' hfront
  exact hcut'

/-- **Two pieces that are cut out between the same texts stand between the same tokens.** -/
theorem exists_tokens (h : lang.CutsOut front piece behind kind)
    (h' : lang.CutsOut front piece' behind kind) :
    ∃ ks ls, lang.tokens (front ++ piece ++ behind) = ks ++ ⟨kind, piece⟩ :: ls ∧
      lang.tokens (front ++ piece' ++ behind) = ks ++ ⟨kind, piece'⟩ :: ls := by
  obtain ⟨ks, ls, hcut, hfront⟩ := h
  exact ⟨ks, ls, hcut, tokens_exchange hcut hfront h'⟩

end Language.CutsOut

/-! ## What the search for methods reads -/

/-- Whether the search for methods reads nothing but kind and place of a token. -/
def TokenKind.isOpaque (kind : TokenKind) : Bool := kind.isComment || kind == .literal

theorem BraceState.read_eq_of_isOpaque {piece piece' : Text} {kind : TokenKind}
    (hplain : kind.isOpaque = true) (hlines : Text.newlines piece = Text.newlines piece')
    (offset line : Nat) (s : BraceState) :
    s.read ⟨⟨kind, piece⟩, offset, line⟩ = s.read ⟨⟨kind, piece'⟩, offset, line⟩ := by
  cases kind with
  | lineComment => rfl
  | blockComment => rfl
  | literal => simp only [BraceState.read, PlacedToken.endLine, hlines]
  | newline => simp [TokenKind.isOpaque, TokenKind.isComment] at hplain
  | blank => simp [TokenKind.isOpaque, TokenKind.isComment] at hplain
  | code => simp [TokenKind.isOpaque, TokenKind.isComment] at hplain

/-- Exchanging an opaque token for another of its kind and measures changes nothing of what is known
behind it. -/
theorem BraceState.foldl_read_eq_of_isOpaque {piece piece' : Text} {kind : TokenKind}
    (hplain : kind.isOpaque = true) (hsize : Text.size piece = Text.size piece')
    (hlines : Text.newlines piece = Text.newlines piece') (ks ls : List Token) :
    (PlacedToken.place (ks ++ ⟨kind, piece⟩ :: ls)).foldl read {} =
      (PlacedToken.place (ks ++ ⟨kind, piece'⟩ :: ls)).foldl read {} := by
  simp only [PlacedToken.place_eq, PlacedToken.placeFrom_append, PlacedToken.placeFrom,
    List.foldl_append, List.foldl_cons, hsize, hlines]
  rw [read_eq_of_isOpaque hplain hlines]

def Method.frame (m : Method) : Method := { m with comments := [] }

theorem Survey.map_frame_methods (lang : Language) (t : Text) :
    (Survey.ofText lang t).methods.map Method.frame =
      (lang.methodFrames (PlacedToken.place (lang.tokens t))).map Method.frame := by
  rw [Survey.ofText, List.map_map]
  rfl

/-- **Comments and literals are opaque.** Two files that differ in one comment or literal have the
same methods if the two are of one kind, of one size and on equally many lines. -/
theorem methods_eq_of_cutsOut (ext : String) {front piece piece' behind : Text} {kind : TokenKind}
    (h : (Language.ofExtension ext).CutsOut front piece behind kind)
    (h' : (Language.ofExtension ext).CutsOut front piece' behind kind)
    (hkind : kind = .lineComment ∨ kind = .blockComment ∨ kind = .literal)
    (hsize : Text.size piece = Text.size piece')
    (hlines : Text.newlines piece = Text.newlines piece') :
    (Survey.ofText (Language.ofExtension ext) (front ++ piece ++ behind)).methods.map Method.frame =
      (Survey.ofText (Language.ofExtension ext) (front ++ piece' ++ behind)).methods.map
        Method.frame := by
  obtain ⟨ks, ls, hcut, hcut'⟩ := h.exists_tokens h'
  have hplain : kind.isOpaque = true := by
    rcases hkind with rfl | rfl | rfl <;> rfl
  rw [Survey.map_frame_methods, Survey.map_frame_methods, hcut, hcut', Language.methodFrames,
    Language.methodFrames, BraceState.foldl_read_eq_of_isOpaque hplain hsize hlines]

/-- A brace, a semicolon, a quote and the beginning of a comment in a literal. -/
theorem methods_eq_of_cutsOut_java :
    let front := "int f(String s) \x7b g(".toList
    let piece := "\"\x7d;/*\"".toList
    let piece' := "\"\\\"\x7b'\"".toList
    let behind := "); \x7d".toList
    Language.braces.CutsOut front piece behind .literal ∧
      Language.braces.CutsOut front piece' behind .literal ∧
      Text.size piece = Text.size piece' ∧ Text.newlines piece = Text.newlines piece' ∧
      (Survey.ofText .braces (front ++ piece' ++ behind)).methods.map Method.frame =
        [⟨"f".toList, 0, 0, 0, 16, 29, []⟩] := by
  intro front piece piece' behind
  have hjava : Language.ofExtension "java" = .braces := by decide
  have h : (Language.ofExtension "java").CutsOut front piece behind .literal :=
    ⟨Language.braces.tokens front, Language.braces.tokens behind, by decide +kernel,
      Language.flatMap_tokens _ _⟩
  have h' : (Language.ofExtension "java").CutsOut front piece' behind .literal :=
    ⟨Language.braces.tokens front, Language.braces.tokens behind, by decide +kernel,
      Language.flatMap_tokens _ _⟩
  have hsize : Text.size piece = Text.size piece' := by decide +kernel
  have hlines : Text.newlines piece = Text.newlines piece' := by decide +kernel
  have heq := methods_eq_of_cutsOut "java" h h' (by simp) hsize hlines
  have hmethods : (Survey.ofText .braces (front ++ piece ++ behind)).methods.map Method.frame =
      [⟨"f".toList, 0, 0, 0, 16, 29, []⟩] := by decide +kernel
  rw [hjava] at h h' heq
  exact ⟨h, h', hsize, hlines, heq.symm.trans hmethods⟩

end CodeFolding
