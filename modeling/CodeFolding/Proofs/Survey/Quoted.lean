import CodeFolding.Proofs.Survey.Exchange
import CodeFolding.Proofs.Survey.Front
import CodeFolding.Proofs.Survey.PlainCode
import Mathlib.Data.Bool.AllAny
/-!
# Strings in single quotes

Some languages with braces write strings in single quotes. The lexer takes only those for literals
that could be literals of one character, and reads every other one as code, brace by brace. Main
statement: what stands in single quotes is opaque if it could be a character, and texts of one
length are opaque in every place just if they have at most one byte (`quoted_opaque_exact`).
-/
namespace CodeFolding

/-- Extensions of the languages with braces that write strings in single quotes. -/
def Language.singleQuoteExtensions : List String :=
  ["js", "jsx", "ts", "tsx", "mjs", "cjs", "php", "dart", "groovy"]

namespace Text

/-- What may stand between single quotes: on one line, and every quote behind a backslash. -/
inductive IsQuotable : Text → Prop where
  | nil : IsQuotable []
  | char {c : Char} {rest : Text} : c ≠ '\n' → c ≠ '\'' → c ≠ '\\' → IsQuotable rest →
    IsQuotable (c :: rest)
  | escape {c : Char} {rest : Text} : c ≠ '\n' → IsQuotable rest → IsQuotable ('\\' :: c :: rest)

/-- A text between single quotes. -/
def inQuotes (text : Text) : Text := '\'' :: (text ++ ['\''])

/-- What a character literal holds between its quotes. -/
def IsCharText (text : Text) : Prop := IsCharBody (text ++ ['\''])

variable {text : Text}

theorem size_inQuotes (text : Text) : size (inQuotes text) = size text + 2 := by
  have hquote : Char.utf8Size '\'' = 1 := by decide
  simp only [inQuotes, size_cons, size_append, size_nil, hquote]
  omega

theorem IsCharText.isInk (h : IsCharText text) : (inQuotes text).IsInk := by
  refine ⟨⟨'\'', _, rfl, by decide⟩, ?_⟩
  rw [inQuotes, List.mem_cons, not_or]
  exact ⟨by decide, h.not_mem⟩

theorem IsQuotable.isCharText (h : IsQuotable text) (hsize : size text = 1) : IsCharText text := by
  cases h with
  | nil => cases hsize
  | @char c rest hfeed hquote hslash =>
    have hc := c.utf8Size_pos
    rw [size_cons] at hsize
    have hrest : rest = [] := by
      by_contra hne
      have := size_pos hne
      omega
    exact Or.inl ⟨c, by rw [hrest]; rfl, hfeed, hquote, hslash⟩
  | @escape c rest =>
    have hc := c.utf8Size_pos
    have hslash := Char.utf8Size_pos '\\'
    rw [size_cons, size_cons] at hsize
    omega

end Text

/-! ## Literals in single quotes -/

namespace Language

variable {lang : Language} {front rest text text' behind : Text}

theorem cutsAt_of_tokens (h : lang.tokens (front ++ rest) = lang.tokens front ++ lang.tokens rest) :
    lang.CutsAt front rest :=
  ⟨_, _, h, flatMap_tokens _ _⟩

theorem literalLength?_quote (rest : Text) :
    braces.literalLength? ('\'' :: rest) = charLength? ('\'' :: rest) := by
  simp [literalLength?, tripleDouble]

theorem not_comment_quote (rest : Text) :
    braces.beginsLineComment ('\'' :: rest) = false ∧ braces.blockLength? ('\'' :: rest) = none :=
  ⟨rfl, rfl⟩

theorem beginsWith_quote_iff {n : Nat} :
    braces.BeginsWith ('\'' :: rest) .literal n ↔ charLength? ('\'' :: rest) = some n := by
  rw [← literalLength?_quote]
  constructor
  · intro h
    cases h with
    | literal _ _ _ h => exact h
  · exact fun h => .literal (by decide) (not_comment_quote rest).1 (not_comment_quote rest).2 h

theorem beginsWith_quote_of_none (h : charLength? ('\'' :: rest) = none) :
    braces.BeginsWith ('\'' :: rest) .code 1 :=
  .code (by decide) (not_comment_quote rest).1 (not_comment_quote rest).2
    ((literalLength?_quote rest).trans h)

/-- **What stands in single quotes is one literal just if it could be a character.** -/
theorem cutsOut_inQuotes_iff (h : braces.CutsAt front (text.inQuotes ++ behind)) :
    braces.CutsOut front text.inQuotes behind .literal ↔ text.IsCharText := by
  constructor
  · rintro ⟨ks, ls, hcut, hfront⟩
    have hbegins := beginsWith_of_append hcut
    have hbehind : ls.flatMap Token.text = behind := by
      rw [CutsOut.tokens_eq hcut hfront, flatMap_tokens]
    rw [hbehind] at hbegins
    obtain ⟨body, hprefix, hbody, hlength⟩ :=
      charLength?_eq_some_iff_body.1 (beginsWith_quote_iff.1 hbegins)
    have heq : body.length = (text ++ ['\'']).length := by
      simpa [Text.inQuotes] using hlength.symm
    rwa [Text.IsCharText, ← (List.prefix_of_prefix_length_le hprefix
      (List.prefix_append _ behind) (Nat.le_of_eq heq)).eq_of_length heq]
  · intro hchar
    have hlength : charLength? ('\'' :: (text ++ ['\''] ++ behind)) = some text.inQuotes.length :=
      charLength?_eq_some_iff_body.2 ⟨text ++ ['\''], List.prefix_append _ _, hchar, rfl⟩
    have htokens : braces.tokens (text.inQuotes ++ behind) =
        ⟨.literal, text.inQuotes⟩ :: braces.tokens behind :=
      tokens_append (beginsWith_quote_iff.2 hlength)
    refine .of_tokens ?_
    rw [List.append_assoc, tokens_eq_of_cutsAt h, htokens]

end Language

/-! ## Files that differ in a string -/

/-- Two files have the same methods, by name, lines and offsets, and the same line comments. -/
structure Language.SeesAlike (lang : Language) (t t' : Text) : Prop where
  methods_eq : (Survey.ofText lang t).methods.map Method.frame =
    (Survey.ofText lang t').methods.map Method.frame
  comments_eq : lineComments (lang.placed t) = lineComments (lang.placed t')

namespace Language

variable {front text text' behind : Text}

/-- **Two texts that could be characters are told apart by nothing.** -/
theorem seesAlike_of_isCharText (hchar : text.IsCharText) (hchar' : text'.IsCharText)
    (hsize : Text.size text = Text.size text')
    (h : braces.CutsAt front (text.inQuotes ++ behind))
    (h' : braces.CutsAt front (text'.inQuotes ++ behind)) :
    braces.SeesAlike (front ++ text.inQuotes ++ behind) (front ++ text'.inQuotes ++ behind) := by
  have hcut := (cutsOut_inQuotes_iff h).2 hchar
  have hcut' := (cutsOut_inQuotes_iff h').2 hchar'
  have hquotes : Text.size text.inQuotes = Text.size text'.inQuotes := by
    rw [Text.size_inQuotes, Text.size_inQuotes, hsize]
  constructor
  · obtain ⟨_, _, _, _, _, hsurvey⟩ :=
      exists_survey braces front behind (Text.size text.inQuotes) (Or.inr rfl)
    rw [hsurvey _ hcut hchar.isInk rfl, hsurvey _ hcut' hchar'.isInk hquotes.symm]
    rfl
  · obtain ⟨ks, ls, htokens, htokens'⟩ := hcut.exists_tokens hcut'
    obtain ⟨above, below, hcomments⟩ := exists_lineComments ks ls (Text.size text.inQuotes) 0
    rw [placed, placed, htokens, htokens',
      hcomments .literal _ rfl (Text.newlines_eq_zero_iff.2 hchar.isInk.2),
      hcomments .literal _ hquotes.symm (Text.newlines_eq_zero_iff.2 hchar'.isInk.2)]
    rfl

end Language

/-! ## Strings that are read as code -/

namespace Language

/-- A string of plain characters, at least two, is no character, and code throughout. -/
theorem tokens_inQuotes_of_isPlainChar {c d : Char} {more : Text}
    (h : ∀ a ∈ c :: d :: more, IsPlainChar a) :
    braces.tokens (Text.inQuotes (c :: d :: more) ++ ['\x7d']) =
      codeTokens (Text.inQuotes (c :: d :: more) ++ ['\x7d']) := by
  have hopening : braces.BeginsWith (['\''] ++ (c :: d :: more ++ ['\'', '\x7d'])) .code
      ['\''].length := by
    refine beginsWith_quote_of_none (Option.eq_none_iff_forall_ne_some.2 fun n hn => ?_)
    rcases charLength?_eq_some_iff.1 hn with ⟨a, b, hsplit, -⟩ | ⟨a, mid, b, hsplit, -⟩
    · obtain ⟨-, hd⟩ := List.cons.inj hsplit
      exact absurd (h d (by simp)) (by rw [(List.cons.inj hd).1]; decide)
    · exact absurd (h c (by simp)) (by rw [(List.cons.inj hsplit).1]; decide)
  have hclosing : braces.tokens ['\'', '\x7d'] = codeTokens ['\'', '\x7d'] := by decide +kernel
  have hsplit : Text.inQuotes (c :: d :: more) ++ ['\x7d'] =
      ['\''] ++ (c :: d :: more ++ ['\'', '\x7d']) := by simp [Text.inQuotes]
  rw [hsplit, tokens_append hopening, tokens_of_isPlainChar h, hclosing]
  simp [codeTokens]

end Language

theorem Text.isQuotable_of_isPlainChar {word : Text} (h : ∀ c ∈ word, IsPlainChar c) :
    word.IsQuotable := by
  induction word with
  | nil => exact .nil
  | cons c word ih =>
    obtain ⟨hink, hplain⟩ := h c List.mem_cons_self
    simp only [List.mem_cons, List.not_mem_nil, or_false, not_or] at hplain
    obtain ⟨-, -, -, hquote, hslash⟩ := hplain
    exact .char (Language.ne_feed_of_isBlank hink) hquote hslash
      (ih fun d hd => h d (List.mem_cons_of_mem c hd))

/-- At least two characters, of which all but the first are letters. -/
def spelling (c : Char) (k : Nat) : Text := c :: 'a' :: List.replicate k 'a'

/-- A string in a method, and nothing else. -/
def stringInMethod (c : Char) (k : Nat) : Text :=
  ['f', '(', ')', '\x7b'] ++ (spelling c k).inQuotes ++ ['\x7d']

theorem size_letters (k : Nat) : Text.size (List.replicate k 'a') = k := by
  have hletter : Char.utf8Size 'a' = 1 := by decide
  induction k with
  | zero => rfl
  | succ k ih => rw [List.replicate_succ, Text.size_cons, ih, hletter, Nat.add_comm]

theorem size_spelling {c : Char} (h : c.utf8Size = 1) (k : Nat) :
    Text.size (spelling c k) = k + 2 := by
  rw [spelling, ← List.replicate_succ, Text.size_cons, size_letters, h]
  omega

theorem isPlainChar_of_mem_spelling {c : Char} (h : IsPlainChar c) (k : Nat) :
    ∀ a ∈ spelling c k, IsPlainChar a := by
  have hletter : IsPlainChar 'a' := by decide
  intro a ha
  rcases List.mem_cons.1 ha with rfl | ha
  · exact h
  · rcases List.mem_cons.1 ha with rfl | ha
    · exact hletter
    · rw [List.eq_of_mem_replicate ha]
      exact hletter

namespace Language

variable {c : Char} {k : Nat}

theorem tokens_stringInMethod (h : IsPlainChar c) (k : Nat) :
    braces.tokens (stringInMethod c k) = codeTokens (stringInMethod c k) := by
  rw [stringInMethod, List.append_assoc, tokens_of_isPlainChar (List.all_iff_forall_prop.1 (by decide)),
    spelling,
    tokens_inQuotes_of_isPlainChar (isPlainChar_of_mem_spelling h k)]
  simp [codeTokens]

theorem not_mem_of_mem_letters {a : Char} (h : a ∈ List.replicate k 'a' ++ ['\'']) :
    a ∉ ['\x7b', '\x7d', ';'] := by
  rcases List.mem_append.1 h with h | h
  · rw [List.eq_of_mem_replicate h]
    decide
  · rw [List.mem_singleton.1 h]
    decide

/-- A closing brace at the beginning of the string closes the method. -/
theorem methodFrames_of_brace (k : Nat) :
    braces.methodFrames (PlacedToken.place (braces.tokens (stringInMethod '\x7d' k))) =
      [⟨['f'], 0, 0, 0, 3, 5, []⟩] := by
  have hsplit : stringInMethod '\x7d' k = ['f', '(', ')', '\x7b', '\'', '\x7d'] ++
      (List.replicate (k + 1) 'a' ++ ['\'']) ++ ['\x7d'] := rfl
  have hmethods : ((PlacedToken.place (codeTokens ['f', '(', ')', '\x7b', '\'', '\x7d'])).foldl
      BraceState.read {}).methods = [⟨['f'], 0, 0, 0, 3, 5, []⟩] := by decide +kernel
  have hbraces : ((PlacedToken.place (codeTokens ['f', '(', ')', '\x7b', '\'', '\x7d'])).foldl
      BraceState.read {}).braces = [] := List.isEmpty_iff.1 (by decide +kernel)
  have hread := methods_foldl_codeTokens ['f', '(', ')', '\x7b', '\'', '\x7d']
    fun _ => not_mem_of_mem_letters (k := k + 1)
  simp only [BraceState.closeBrace, hbraces, hmethods] at hread
  rw [methodFrames, if_pos rfl, tokens_stringInMethod (by decide), hsplit, hread,
    List.mergeSort_singleton]

/-- Without one the method goes on to the brace behind the string. -/
theorem methodFrames_of_letter (k : Nat) :
    braces.methodFrames (PlacedToken.place (braces.tokens (stringInMethod 'a' k))) =
      [⟨['f'], 0, 0, 0, 3, k + 8, []⟩] := by
  have hsplit : stringInMethod 'a' k =
      ['f', '(', ')', '\x7b', '\''] ++ (List.replicate (k + 2) 'a' ++ ['\'']) ++ ['\x7d'] := rfl
  have hmethods : ((PlacedToken.place (codeTokens ['f', '(', ')', '\x7b', '\''])).foldl
      BraceState.read {}).methods = [] := by decide +kernel
  have hbraces : ((PlacedToken.place (codeTokens ['f', '(', ')', '\x7b', '\''])).foldl
      BraceState.read {}).braces.map (fun b => (b.method, b.line, b.offset)) =
        [(some (['f'], 0), 0, 3)] := by decide +kernel
  have hread := methods_foldl_codeTokens ['f', '(', ')', '\x7b', '\'']
    fun _ => not_mem_of_mem_letters (k := k + 2)
  have hsize : Text.size (['f', '(', ')', '\x7b', '\''] ++
      (List.replicate (k + 2) 'a' ++ ['\''])) = k + 8 := by
    have hfront : Text.size ['f', '(', ')', '\x7b', '\''] = 5 := by decide
    have hquote : Text.size ['\''] = 1 := by decide
    rw [Text.size_append, Text.size_append, size_letters, hfront, hquote]
    omega
  have hlines : Text.newlines (['f', '(', ')', '\x7b', '\''] ++
      (List.replicate (k + 2) 'a' ++ ['\''])) = 0 := Text.newlines_eq_zero_iff.2 (by simp)
  obtain ⟨b, hb, heq⟩ := List.map_eq_singleton_iff.1 hbraces
  obtain ⟨hmethod, hline, hoffset⟩ : b.method = some (['f'], 0) ∧ b.line = 0 ∧ b.offset = 3 := by
    simpa using heq
  simp only [BraceState.closeBrace, hb, hsize, hlines, hmethods, hmethod, hline, hoffset] at hread
  rw [methodFrames, if_pos rfl, tokens_stringInMethod (by decide), hsplit, hread,
    List.mergeSort_singleton]

/-- **There is no length from two bytes on at which strings are opaque.** -/
theorem exists_not_seesAlike {n : Nat} (hn : 2 ≤ n) :
    ∃ front text text' behind : Text, text.IsQuotable ∧ text'.IsQuotable ∧ Text.size text = n ∧
      Text.size text' = n ∧ braces.CutsAt front (text.inQuotes ++ behind) ∧
      braces.CutsAt front (text'.inQuotes ++ behind) ∧
      ¬ braces.SeesAlike (front ++ text.inQuotes ++ behind)
        (front ++ text'.inQuotes ++ behind) := by
  obtain ⟨k, rfl⟩ := Nat.exists_eq_add_of_le' hn
  have hbrace : IsPlainChar '\x7d' := by decide
  have hletter : IsPlainChar 'a' := by decide
  have hcut : ∀ rest, braces.CutsAt ['f', '(', ')', '\x7b'] rest := fun rest =>
    ⟨_, _, tokens_of_isPlainChar (List.all_iff_forall_prop.1 (by decide)) rest, flatMap_codeTokens _⟩
  refine ⟨['f', '(', ')', '\x7b'], spelling '\x7d' k, spelling 'a' k, ['\x7d'],
    Text.isQuotable_of_isPlainChar (isPlainChar_of_mem_spelling hbrace k),
    Text.isQuotable_of_isPlainChar (isPlainChar_of_mem_spelling hletter k),
    size_spelling (by decide) k, size_spelling (by decide) k, hcut _, hcut _, ?_⟩
  intro h
  have halike : braces.SeesAlike (stringInMethod '\x7d' k) (stringInMethod 'a' k) := h
  have hframes := halike.methods_eq
  rw [Survey.map_frame_methods, Survey.map_frame_methods, methodFrames_of_brace,
    methodFrames_of_letter] at hframes
  have hends := congrArg (List.map Method.closeOffset) hframes
  simp [Method.frame] at hends

/-- Strings of `n` bytes are opaque: what stands in one of them makes no difference, wherever the
lexer comes to it. -/
def HidesStrings (lang : Language) (n : Nat) : Prop :=
  ∀ front text text' behind : Text, text.IsQuotable → text'.IsQuotable → Text.size text = n →
    Text.size text' = n → lang.CutsAt front (text.inQuotes ++ behind) →
    lang.CutsAt front (text'.inQuotes ++ behind) →
    lang.SeesAlike (front ++ text.inQuotes ++ behind) (front ++ text'.inQuotes ++ behind)

theorem hidesStrings_iff (n : Nat) : braces.HidesStrings n ↔ n ≤ 1 := by
  constructor
  · intro h
    by_contra hn
    obtain ⟨front, text, text', behind, hquotable, hquotable', hsize, hsize', hcut, hcut', hnot⟩ :=
      exists_not_seesAlike (n := n) (by omega)
    exact hnot (h front text text' behind hquotable hquotable' hsize hsize' hcut hcut')
  · intro hn front text text' behind hquotable hquotable' hsize hsize' hcut hcut'
    by_cases hone : n = 1
    · exact seesAlike_of_isCharText (hquotable.isCharText (hsize.trans hone))
        (hquotable'.isCharText (hsize'.trans hone)) (hsize.trans hsize'.symm) hcut hcut'
    · have hempty : ∀ {text : Text}, Text.size text = n → text = [] := by
        intro text hsize
        by_contra hne
        have := Text.size_pos hne
        omega
      rw [hempty hsize, hempty hsize']
      exact ⟨rfl, rfl⟩

end Language

/-- **Which strings in single quotes are opaque.** In the languages that write strings in single
quotes the lexer takes a text in quotes for one literal just if it could be a character: if it is
one, or a backslash with what may follow it. Two such texts of one size are told apart by no method
and no line comment. Of all strings of a given size this is true in every place just if the size is
at most one byte. -/
theorem quoted_opaque_exact (ext : String) (hext : ext ∈ Language.singleQuoteExtensions) :
    let lang := Language.ofExtension ext
    (∀ front text behind : Text, lang.CutsAt front (text.inQuotes ++ behind) →
      (lang.CutsOut front text.inQuotes behind .literal ↔ text.IsCharText)) ∧
    (∀ front text text' behind : Text, text.IsCharText → text'.IsCharText →
      Text.size text = Text.size text' → lang.CutsAt front (text.inQuotes ++ behind) →
      lang.CutsAt front (text'.inQuotes ++ behind) →
      lang.SeesAlike (front ++ text.inQuotes ++ behind) (front ++ text'.inQuotes ++ behind)) ∧
    ∀ n, lang.HidesStrings n ↔ n ≤ 1 := by
  intro lang
  have hbraces : lang = .braces := by
    have hall : ∀ ext ∈ Language.singleQuoteExtensions, Language.ofExtension ext = .braces := by
      decide
    exact hall ext hext
  rw [hbraces]
  exact ⟨fun _ _ _ h => Language.cutsOut_inQuotes_iff h,
    fun _ _ _ _ hchar hchar' hsize h h' =>
      Language.seesAlike_of_isCharText hchar hchar' hsize h h', Language.hidesStrings_iff⟩

/-- Two escapes of one size with a brace, a semicolon and the beginning of a comment. -/
theorem quoted_opaque_exact_js :
    let front : Text := "function f() \x7b s = ".toList
    let text : Text := "\\u\x7b7d\x7d".toList
    let text' : Text := "\\n//;\x7d".toList
    let behind : Text := "; \x7d".toList
    "js" ∈ Language.singleQuoteExtensions ∧ text.IsCharText ∧ text'.IsCharText ∧
      Text.size text = Text.size text' ∧ Language.braces.CutsAt front (text.inQuotes ++ behind) ∧
      Language.braces.CutsAt front (text'.inQuotes ++ behind) ∧
      (Survey.ofText .braces (front ++ text'.inQuotes ++ behind)).methods.map Method.frame =
        [⟨"f".toList, 0, 0, 0, 13, 29, []⟩] ∧
      Language.braces.HidesStrings 1 ∧ ¬ Language.braces.HidesStrings 2 := by
  intro front text text' behind
  have hjs : Language.ofExtension "js" = .braces := by decide
  have hext : "js" ∈ Language.singleQuoteExtensions := by decide
  have hchar : text.IsCharText := Or.inr ⟨'u', "\x7b7d\x7d".toList, by decide⟩
  have hchar' : text'.IsCharText := Or.inr ⟨'n', "//;\x7d".toList, by decide⟩
  have hsize : Text.size text = Text.size text' := by decide
  have hcut : Language.braces.CutsAt front (text.inQuotes ++ behind) :=
    Language.cutsAt_of_tokens (by decide +kernel)
  have hcut' : Language.braces.CutsAt front (text'.inQuotes ++ behind) :=
    Language.cutsAt_of_tokens (by decide +kernel)
  obtain ⟨-, halike, hhides⟩ := quoted_opaque_exact "js" hext
  rw [hjs] at halike hhides
  have hmethods : (Survey.ofText .braces (front ++ text.inQuotes ++ behind)).methods.map
      Method.frame = [⟨"f".toList, 0, 0, 0, 13, 29, []⟩] := by decide +kernel
  exact ⟨hext, hchar, hchar', hsize, hcut, hcut',
    (halike front text text' behind hchar hchar' hsize hcut hcut').methods_eq.symm.trans hmethods,
    (hhides 1).2 (by decide), fun h => absurd ((hhides 2).1 h) (by decide)⟩

/-- A brace in a string of three bytes closes the method. -/
theorem brace_in_string_closes :
    let front : Text := "function f() \x7b\ns = ".toList
    let text : Text := "\x7dab".toList
    let text' : Text := "cab".toList
    let behind : Text := ";\n\x7d\n".toList
    Language.ofExtension "js" = .braces ∧ text.IsQuotable ∧ text'.IsQuotable ∧
      Text.size text = Text.size text' ∧
      Language.braces.CutsAt front (text.inQuotes ++ behind) ∧
      Language.braces.CutsAt front (text'.inQuotes ++ behind) ∧
      ¬ Language.braces.SeesAlike (front ++ text.inQuotes ++ behind)
        (front ++ text'.inQuotes ++ behind) := by
  intro front text text' behind
  refine ⟨by decide, Text.isQuotable_of_isPlainChar (List.all_iff_forall_prop.1 (by decide)),
    Text.isQuotable_of_isPlainChar (List.all_iff_forall_prop.1 (by decide)), by decide,
    Language.cutsAt_of_tokens (by decide +kernel), Language.cutsAt_of_tokens (by decide +kernel),
    fun h => ?_⟩
  exact absurd h.methods_eq (by decide +kernel)

end CodeFolding
