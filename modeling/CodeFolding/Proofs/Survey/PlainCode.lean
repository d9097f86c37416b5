import CodeFolding.Proofs.Token.Extent
import CodeFolding.Proofs.Token.Place
import CodeFolding.Survey
/-!
# Code that is read character by character

Characters that begin neither a comment nor a literal are code, each of them a token. Main
statements: the tokens of such a text (`tokens_of_isPlainChar`), and the methods of one that ends in
its last brace (`methods_foldl_codeTokens`).
-/
namespace CodeFolding

/-- Characters that begin neither a comment nor a literal and end none. -/
def IsPlainChar (c : Char) : Prop := isBlank c = false ∧ c ∉ ['/', '"', '`', '\'', '\\']

instance (c : Char) : Decidable (IsPlainChar c) := inferInstanceAs (Decidable (_ ∧ _))

/-- The characters of a text, each a token of code. -/
def codeTokens (t : Text) : List Token := t.map fun c => ⟨.code, [c]⟩

namespace Language

variable {word : Text} {c : Char}

theorem beginsWith_of_isPlainChar (h : IsPlainChar c) (rest : Text) :
    braces.BeginsWith (c :: rest) .code 1 := by
  obtain ⟨hink, hplain⟩ := h
  simp only [List.mem_cons, List.not_mem_nil, or_false, not_or] at hplain
  obtain ⟨hslash, hdouble, hback, hsingle, -⟩ := hplain
  refine .code hink ?_ ?_ ?_
  · simp [beginsLineComment, comments, List.isPrefixOf, Ne.symm hslash]
  · simp [blockLength?, comments, Ne.symm hslash]
  · simp [literalLength?, tripleDouble, Ne.symm hdouble, hdouble, hback, hsingle]

/-- **Plain characters are read one by one.** -/
theorem tokens_of_isPlainChar (h : ∀ c ∈ word, IsPlainChar c) (rest : Text) :
    braces.tokens (word ++ rest) = codeTokens word ++ braces.tokens rest := by
  induction word with
  | nil => rfl
  | cons c word ih =>
    have hc : braces.BeginsWith ([c] ++ (word ++ rest)) .code [c].length :=
      beginsWith_of_isPlainChar (h c List.mem_cons_self) _
    rw [List.cons_append, ← List.singleton_append, tokens_append hc,
      ih fun d hd => h d (List.mem_cons_of_mem c hd)]
    rfl

end Language

theorem flatMap_codeTokens (t : Text) : (codeTokens t).flatMap Token.text = t := by
  induction t with
  | nil => rfl
  | cons c t ih => exact congrArg (c :: ·) ih

theorem BraceState.foldl_read_codeTokens {word : Text} (h : ∀ c ∈ word, c ∉ ['\x7b', '\x7d', ';'])
    (offset line : Nat) (s : BraceState) :
    ∃ header, (PlacedToken.placeFrom offset line (codeTokens word)).foldl read s =
      { s with header } := by
  induction word generalizing offset line s with
  | nil => exact ⟨s.header, rfl⟩
  | cons c word ih =>
    have hc := h c List.mem_cons_self
    simp only [List.mem_cons, List.not_mem_nil, or_false, not_or] at hc
    obtain ⟨hopening, hclosing, hend⟩ := hc
    have hread : s.read ⟨⟨.code, [c]⟩, offset, line⟩ =
        { s with header := s.header.addCode [c] line } := by
      simp [read, hopening, hclosing, hend]
    obtain ⟨header, hfold⟩ := ih (fun d hd => h d (List.mem_cons_of_mem c hd))
      (offset + Text.size [c]) (line + Text.newlines [c])
      { s with header := s.header.addCode [c] line }
    refine ⟨header, ?_⟩
    rw [codeTokens, List.map_cons, PlacedToken.placeFrom, List.foldl_cons, hread]
    exact hfold

/-- The methods of code whose last brace is its last character. -/
theorem methods_foldl_codeTokens (front : Text) {word : Text}
    (h : ∀ c ∈ word, c ∉ ['\x7b', '\x7d', ';']) :
    ((PlacedToken.place (codeTokens (front ++ word ++ ['\x7d']))).foldl
        BraceState.read {}).methods =
      (((PlacedToken.place (codeTokens front)).foldl BraceState.read {}).closeBrace
        (Text.newlines (front ++ word)) (Text.size (front ++ word))).methods := by
  have hsplit : codeTokens (front ++ word ++ ['\x7d']) =
      codeTokens front ++ codeTokens word ++ [⟨.code, ['\x7d']⟩] := by simp [codeTokens]
  obtain ⟨header, hword⟩ := BraceState.foldl_read_codeTokens h (0 + Text.size front)
    (0 + Text.newlines front) ((PlacedToken.place (codeTokens front)).foldl BraceState.read {})
  rw [hsplit, PlacedToken.place_eq, PlacedToken.placeFrom_append, PlacedToken.placeFrom_append,
    List.foldl_append, List.foldl_append, flatMap_codeTokens, ← PlacedToken.place_eq, hword,
    List.flatMap_append, flatMap_codeTokens, flatMap_codeTokens, Nat.zero_add, Nat.zero_add]
  -- the header is dropped at the brace
  simp only [PlacedToken.placeFrom, List.foldl_cons, List.foldl_nil, BraceState.read,
    BraceState.closeBrace]

end CodeFolding
