import CodeFolding.Proofs.Survey.Flags
import CodeFolding.Proofs.Token.Extent
import Mathlib.Data.List.TakeWhile
/-!
# Lines that a token runs into

A token may run over several lines. Each line behind its first one begins in the token, up to the
one on which it ends, unless that line is blank. Main statement: what the flags of a file say of the
lines that comments and literals run into, next to what they say of all lines
(`flags_begin_in_comments`).
-/
namespace CodeFolding

/-- The first character of a line that is not blank lies in the token. -/
def Line.BeginsIn (l : Line) (k : PlacedToken) : Prop :=
  ∃ front c rest, l.text = front ++ c :: rest ∧ front.all isBlank = true ∧ isBlank c = false ∧
    k.Covers (l.start + Text.size front)

variable {lang : Language} {t : Text} {i : Nat} {l : Line} {j k : PlacedToken}

theorem Line.beginsInComment_iff {ks : List PlacedToken} :
    l.BeginsInComment ks ↔ ∃ k ∈ ks, k.kind.isComment = true ∧ l.BeginsIn k := by
  constructor
  · rintro ⟨front, c, rest, htext, hfront, hc, k, hk, hcomment, hcover⟩
    exact ⟨k, hk, hcomment, front, c, rest, htext, hfront, hc, hcover⟩
  · rintro ⟨k, hk, hcomment, front, c, rest, htext, hfront, hc, hcover⟩
    exact ⟨front, c, rest, htext, hfront, hc, k, hk, hcomment, hcover⟩

theorem Text.takeWhile_isBlank_eq {u front rest : Text} {c : Char} (h : u = front ++ c :: rest)
    (hfront : front.all isBlank = true) (hc : isBlank c = false) :
    u.takeWhile isBlank = front := by
  rw [h, List.takeWhile_append_of_pos (List.all_eq_true.1 hfront),
    List.takeWhile_cons_of_neg (by simp [hc]), List.append_nil]

theorem Text.exists_first_ink {u : Text} (h : u.all isBlank = false) :
    ∃ front c rest, u = front ++ c :: rest ∧ front.all isBlank = true ∧ isBlank c = false := by
  cases hrest : u.dropWhile isBlank with
  | nil =>
    have hall : u.all isBlank = true := by simpa using List.dropWhile_eq_nil_iff.1 hrest
    simp [h] at hall
  | cons c rest =>
    have hc := List.head?_dropWhile_not (p := isBlank) u
    rw [hrest] at hc
    refine ⟨u.takeWhile isBlank, c, rest, ?_, List.all_takeWhile, by simpa using hc⟩
    rw [← hrest, List.takeWhile_append_dropWhile]

theorem Line.BeginsIn.eq (hj : l.BeginsIn j) (hk : l.BeginsIn k) (hjmem : j ∈ lang.placed t)
    (hkmem : k ∈ lang.placed t) : j = k := by
  obtain ⟨front, c, rest, htext, hfront, hc, hjcover⟩ := hj
  obtain ⟨front', c', rest', htext', hfront', hc', hkcover⟩ := hk
  have heq := (Text.takeWhile_isBlank_eq htext hfront hc).symm.trans
    (Text.takeWhile_isBlank_eq htext' hfront' hc')
  rw [heq] at hjcover
  exact Language.eq_of_covers hjmem hkmem hjcover hkcover

/-! ## What the flags say -/

namespace Survey

/-- **A line is flagged just when the text has it and it begins in a comment.** -/
theorem isComment_iff_exists (lang : Language) (t : Text) (i : Nat) :
    (Survey.ofText lang t).isComment i = true ↔
      ∃ l, (Line.ofText t)[i]? = some l ∧ l.BeginsInComment (lang.placed t) := by
  constructor
  · intro h
    have hink : FirstInk (marks (lang.tokens t)) i true := by
      rw [← getElem?_flagLines]
      rw [isComment, Option.getD_eq_iff] at h
      simpa [ofText] using h
    obtain ⟨front, c, rest, hsplit, hc, rfl, -⟩ := hink
    have ht : t = unmark front ++ c :: unmark rest := by
      rw [← unmark_marks_tokens lang t, hsplit, unmark_append]
      rfl
    obtain ⟨l, _, _, hl, -⟩ :=
      @Line.exists_isRow (unmark front) (unmark rest) c (Language.ne_feed_of_isBlank hc)
    rw [← ht] at hl
    exact ⟨l, hl, (isComment_iff hl).1 h⟩
  · rintro ⟨l, hl, h⟩
    exact (isComment_iff hl).2 h

theorem isComment_eq_of_beginsIn (hl : (Line.ofText t)[i]? = some l) (hk : k ∈ lang.placed t)
    (h : l.BeginsIn k) : (Survey.ofText lang t).isComment i = k.kind.isComment := by
  rw [Bool.eq_iff_iff, isComment_iff hl, Line.beginsInComment_iff]
  constructor
  · rintro ⟨j, hj, hcomment, hbegins⟩
    exact hbegins.eq h hj hk ▸ hcomment
  · intro hcomment
    exact ⟨k, hk, hcomment, h⟩

theorem isComment_eq_false_of_blank (hl : (Line.ofText t)[i]? = some l)
    (hblank : l.text.all isBlank = true) : (Survey.ofText lang t).isComment i = false := by
  rw [← Bool.not_eq_true, isComment_iff hl]
  rintro ⟨front, c, rest, htext, -, hc, -⟩
  rw [htext, List.all_append, List.all_cons, hc] at hblank
  simp at hblank

end Survey

/-! ## Lines that a token runs into -/

/-- The beginning of a line that a token runs into splits the token behind one of its line
feeds. -/
theorem exists_split_of_continues {ks ls : List PlacedToken} {front rest : Text}
    (hsplit : lang.placed t = ks ++ k :: ls) (ht : t = front ++ rest)
    (hrow : Line.IsRow 0 front rest i l) (hbehind : k.line < i) (hend : i ≤ k.endLine) :
    ∃ v u, k.text = v ++ u ∧ v.getLast? = some '\n' ∧ front = PlacedToken.spelled ks ++ v ∧
      rest = u ++ PlacedToken.spelled ls := by
  have hline := (Language.place_of_append hsplit).2
  have hfeeds := hrow.newlines_front
  have htext := Language.split_of_placed hsplit
  rw [PlacedToken.endLine] at hend
  rw [ht] at htext
  rcases Text.split_cases htext.symm with ⟨v, rfl, hrest⟩ | ⟨v, hfront, -, -⟩
  · rw [Text.newlines_append] at hfeeds
    have hv : v.getLast? = some '\n' := by
      have hne : v ≠ [] := by
        rintro rfl
        rw [Text.newlines_nil] at hfeeds
        omega
      obtain ⟨c, hc⟩ := Option.ne_none_iff_exists'.1 (mt List.getLast?_eq_none_iff.1 hne)
      rcases hrow.front_ends with hnil | hlast
      · exact absurd (List.append_eq_nil_iff.1 hnil).2 hne
      · rwa [List.getLast?_append, hc, Option.some_or, ← hc] at hlast
    rcases Text.split_cases hrest with ⟨w, rfl, hls⟩ | ⟨u, hk, hrest, -⟩
    · -- the line begins where the token ends: no line feed comes between
      rw [Text.newlines_append] at hfeeds
      cases w with
      | nil => exact ⟨k.text, [], by simp, by simpa using hv, by simp, by simpa using hls.symm⟩
      | cons c w =>
        rw [List.getLast?_append, List.getLast?_cons, Option.some_or, ← List.getLast?_cons] at hv
        have := Text.newlines_pos_of_getLast? hv
        omega
    · exact ⟨v, u, hk, hv, rfl, hrest⟩
  · have := congrArg Text.newlines hfront
    rw [Text.newlines_append] at this
    omega

/-- **A line that a comment over several lines or a literal runs into begins there, unless it is
blank.** -/
theorem beginsIn_of_continues (hk : k ∈ lang.placed t)
    (hkind : k.kind = .blockComment ∨ k.kind = .literal) (hl : (Line.ofText t)[i]? = some l)
    (hbehind : k.line < i) (hend : i ≤ k.endLine) (hink : l.text.all isBlank = false) :
    l.BeginsIn k := by
  obtain ⟨ks, ls, hsplit⟩ := List.append_of_mem hk
  obtain ⟨front, rest, ht, hrow⟩ := Line.isRow_of_getElem? hl
  obtain ⟨v, u, htext, hv, rfl, rfl⟩ :=
    exists_split_of_continues hsplit ht hrow hbehind hend
  obtain ⟨blanks, c, more, hltext, hblanks, hc⟩ := Text.exists_first_ink hink
  obtain ⟨rest, hrest⟩ := hrow.text_prefix
  have hoffset := (Language.place_of_append hsplit).1
  rw [hltext, List.append_assoc, List.cons_append] at hrest
  rcases Text.split_cases hrest.symm with ⟨w, rfl, hls⟩ | ⟨w, rfl, hw, hne⟩
  · -- all that is left of the token is blank, so the line would end with it
    have hlast : ∀ d, k.text.getLast? = some d → isBlank d = true := by
      intro d hd
      rw [htext, List.getLast?_append, hv, Option.or_some] at hd
      cases hu : u.getLast? with
      | none =>
        rw [hu] at hd
        obtain rfl : '\n' = d := by simpa using hd
        decide
      | some e =>
        rw [hu] at hd
        obtain rfl : e = d := by simpa using hd
        rw [List.all_append, Bool.and_eq_true] at hblanks
        exact List.all_eq_true.1 hblanks.1 e (List.mem_of_getLast? hu)
    have hends := Language.endsInInk_of_append (Language.tokens_of_placed hsplit) hkind
    rw [PlacedToken.flatMap_text_map, hls] at hends
    rcases hends with ⟨d, hd, hdink⟩ | hnil | hfeed
    · rw [hlast d hd] at hdink
      cases hdink
    · simp at hnil
    · refine absurd ?_ hrow.not_mem_text
      rw [hltext]
      cases w with
      | nil =>
        obtain rfl : c = '\n' := by simpa using hfeed
        simp
      | cons d w =>
        obtain rfl : d = '\n' := by simpa using hfeed
        simp
  · refine ⟨blanks, c, more, hltext, hblanks, hc, ?_, ?_⟩
    · rw [hrow.start_eq, hoffset]
      simp only [Text.size_append]
      omega
    · have := Text.size_pos hne
      rw [hrow.start_eq, hoffset, htext]
      simp only [Text.size_append]
      omega

theorem exists_line_of_closed (hk : k ∈ lang.placed t) (hclosed : ['*', '/'] <:+ k.text) :
    ∃ l, (Line.ofText t)[k.endLine]? = some l ∧ l.text.all isBlank = false := by
  obtain ⟨ks, ls, hsplit⟩ := List.append_of_mem hk
  obtain ⟨inner, hinner⟩ := hclosed
  have hline := (Language.place_of_append hsplit).2
  have ht : t = (PlacedToken.spelled ks ++ (inner ++ ['*'])) ++ '/' :: PlacedToken.spelled ls := by
    rw [Language.split_of_placed hsplit, ← hinner]
    simp
  obtain ⟨l, _, col, hl, -, hcol, hrow⟩ :=
    @Line.exists_isRow (PlacedToken.spelled ks ++ (inner ++ ['*'])) (PlacedToken.spelled ls) '/'
      (by decide)
  obtain ⟨more, hltext⟩ := hrow.text_eq hcol (by decide) (by decide)
  have hnumber : Text.newlines (PlacedToken.spelled ks ++ (inner ++ ['*'])) = k.endLine := by
    rw [PlacedToken.endLine, hline, ← hinner]
    simp [Text.newlines_append, Text.newlines_cons]
  rw [← ht, hnumber] at hl
  refine ⟨l, hl, ?_⟩
  have hslash : isBlank '/' = false := by decide
  rw [hltext, List.all_append, List.all_cons, hslash]
  simp

/-- The flags of a file with the given tokens and lines. -/
structure Survey.FlagsBeginnings (v : Survey) (ks : List PlacedToken) (lines : Array Line) :
    Prop where
  /-- A line is flagged just when it has a character that is not blank and the first such character
  lies in a comment. -/
  flagged_iff : ∀ i, v.isComment i = true ↔ ∃ l, lines[i]? = some l ∧ l.BeginsInComment ks
  /-- Of a line that begins in code or in a literal, a comment further on does not matter. -/
  of_beginsIn : ∀ i l k, lines[i]? = some l → k ∈ ks → l.BeginsIn k →
    v.isComment i = k.kind.isComment
  of_blank : ∀ i l, lines[i]? = some l → l.text.all isBlank = true → v.isComment i = false
  /-- The lines behind the first one of a comment are flagged but for the blank ones. -/
  of_comment : ∀ i l k, lines[i]? = some l → k ∈ ks → k.kind = .blockComment → k.line < i →
    i ≤ k.endLine → v.isComment i = !l.text.all isBlank
  /-- So is the line on which the comment is closed. -/
  of_closed : ∀ k ∈ ks, k.kind = .blockComment → ['*', '/'] <:+ k.text → k.line < k.endLine →
    v.isComment k.endLine = true
  /-- The lines behind the first one of a literal are not. -/
  of_literal : ∀ i, ∀ k ∈ ks, k.kind = .literal → k.line < i → i ≤ k.endLine →
    v.isComment i = false

/-- **The flags of a file are those of the lines that begin in a comment**, the lines that a comment
runs into among them and those that a literal runs into not. -/
theorem flags_begin_in_comments (t : Text) (ext : String) :
    let lang := Language.ofExtension ext
    (Survey.ofText lang t).FlagsBeginnings (lang.placed t) (Line.ofText t) := by
  intro lang
  have hcomment : ∀ i l k, (Line.ofText t)[i]? = some l → k ∈ lang.placed t →
      k.kind = .blockComment → k.line < i → i ≤ k.endLine →
      (Survey.ofText lang t).isComment i = !l.text.all isBlank := by
    intro i l k hl hk hkind hbehind hend
    cases hblank : l.text.all isBlank with
    | true => exact Survey.isComment_eq_false_of_blank hl hblank
    | false =>
      have hbegins := beginsIn_of_continues hk (Or.inl hkind) hl hbehind hend hblank
      rw [Survey.isComment_eq_of_beginsIn hl hk hbegins, hkind]
      rfl
  refine ⟨Survey.isComment_iff_exists lang t, ?_, ?_, hcomment, ?_, ?_⟩
  · intro i l k hl hk hbegins
    exact Survey.isComment_eq_of_beginsIn hl hk hbegins
  · intro i l hl hblank
    exact Survey.isComment_eq_false_of_blank hl hblank
  · intro k hk hkind hclosed hlt
    obtain ⟨l, hl, hink⟩ := exists_line_of_closed hk hclosed
    rw [hcomment _ l k hl hk hkind hlt (Nat.le_refl _), hink]
    rfl
  · intro i k hk hkind hbehind hend
    cases hl : (Line.ofText t)[i]? with
    | none =>
      rw [← Bool.not_eq_true, Survey.isComment_iff_exists, hl]
      simp
    | some l =>
      cases hblank : l.text.all isBlank with
      | true => exact Survey.isComment_eq_false_of_blank hl hblank
      | false =>
        have hbegins := beginsIn_of_continues hk (Or.inr hkind) hl hbehind hend hblank
        rw [Survey.isComment_eq_of_beginsIn hl hk hbegins, hkind]
        rfl

/-- A line with code in front of a comment, a comment over three lines with a blank one among them,
and a literal that looks like a comment on its second line. -/
theorem flags_begin_in_comments_c :
    let v := Survey.ofText (Language.ofExtension "c")
      "a; // b\n/* c\n\n d */ e\n\"f\\\n// g\"".toList
    v.isComment 0 = false ∧ v.isComment 2 = false ∧ v.isComment 3 = true ∧
      v.isComment 5 = false := by
  intro v
  have h := flags_begin_in_comments "a; // b\n/* c\n\n d */ e\n\"f\\\n// g\"".toList "c"
  refine ⟨?_, ?_, ?_, ?_⟩
  · refine h.of_beginsIn 0 ⟨0, "a; // b".toList, ['\n']⟩ ⟨⟨.code, ['a']⟩, 0, 0⟩ (by decide +kernel)
      (by decide +kernel) ⟨[], 'a', "; // b".toList, rfl, rfl, by decide, by decide, by decide⟩
  · exact h.of_blank 2 ⟨13, [], ['\n']⟩ (by decide +kernel) rfl
  · exact h.of_closed ⟨⟨.blockComment, "/* c\n\n d */".toList⟩, 8, 1⟩ (by decide +kernel) rfl
      ⟨"/* c\n\n d ".toList, rfl⟩ (by decide)
  · exact h.of_literal 5 ⟨⟨.literal, "\"f\\\n// g\"".toList⟩, 22, 4⟩ (by decide +kernel) rfl
      (by decide) (by decide)

end CodeFolding
