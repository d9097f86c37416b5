import CodeFolding.Proofs.Survey.Flags
import CodeFolding.Proofs.Survey.Methods
import Mathlib.Data.List.TakeWhile
/-!
# The lines of methods and comments

A survey counts lines while it reads tokens, and a reader counts them while it cuts the text. Main
statements: both count alike (`survey_lines_agree`), so that methods and comments stand on lines
which the reader has, where the reader says that these lines stand (`liesIn_of_mem_methods`).
-/
namespace CodeFolding

/-- An offset lies in the content of a line. -/
def LineReader.Holds (src : LineReader) (line offset : Nat) : Prop :=
  ∃ start stop, src.start? line = some start ∧ src.stop? line = some stop ∧
    start ≤ offset ∧ offset < stop

/-- The lines of a method and of its comments are those of a reader. -/
structure Method.LiesIn (m : Method) (src : LineReader) : Prop where
  header_le_open : m.headerLine ≤ m.openLine
  open_le_close : m.openLine ≤ m.closeLine
  close_lt_count : m.closeLine < src.count
  holds_open : src.Holds m.openLine m.openOffset
  holds_close : src.Holds m.closeLine m.closeOffset
  comments_ascending : m.comments.Pairwise fun c d => c.line < d.line
  comments_inside : ∀ c ∈ m.comments, m.openLine ≤ c.line ∧ c.line < m.closeLine
  /-- A comment is the end of its line, less the carriage returns. -/
  comments_text : ∀ c ∈ m.comments, ∃ u, src.text? c.line = some u ∧
    c.text <:+ Text.dropReturns u

variable {lang : Language} {t : Text}

/-! ## Tokens on their lines -/

/-- The row in which a token that is no line feed begins, seen from the token. -/
theorem exists_row_of_append {ks ls : List PlacedToken} {k : PlacedToken} {c : Char} {more : Text}
    (h : lang.placed t = ks ++ k :: ls) (htext : k.text = c :: more) (hfeed : c ≠ '\n') :
    ∃ l front col, (Line.ofText t)[k.line]? = some l ∧
      k.offset = Text.size front + Text.size col ∧ '\n' ∉ col ∧
      Line.IsRow 0 front (col ++ (k.text ++ PlacedToken.spelled ls)) k.line l := by
  obtain ⟨hoffset, hline⟩ := Language.place_of_append h
  have ht : t = PlacedToken.spelled ks ++ c :: (more ++ PlacedToken.spelled ls) := by
    rw [Language.split_of_placed h, htext]; rfl
  obtain ⟨l, front, col, hl, hfront, hcol, hrow⟩ :=
    @Line.exists_isRow (PlacedToken.spelled ks) (more ++ PlacedToken.spelled ls) c hfeed
  rw [← ht, ← hline] at hl
  refine ⟨l, front, col, hl, ?_, hcol, ?_⟩
  · rw [hoffset, hfront, Text.size_append]
  · rw [htext, hline]
    exact hrow

/-- A token stands on the line that the reader gives its number, unless it begins with the end of
a line. -/
theorem holds_of_mem_placed {k : PlacedToken} {c : Char} {more : Text} (h : k ∈ lang.placed t)
    (htext : k.text = c :: more) (hfeed : c ≠ '\n') (hreturn : c ≠ '\r') :
    (LineReader.ofText t).Holds k.line k.offset := by
  obtain ⟨ks, ls, hsplit⟩ := List.append_of_mem h
  obtain ⟨l, front, col, hl, hoffset, hcol, hrow⟩ := exists_row_of_append hsplit htext hfeed
  have hstart := hrow.start_eq
  rw [htext] at hrow
  obtain ⟨rest, hltext⟩ := hrow.text_eq hcol hfeed hreturn
  refine ⟨l.start, l.stop, ?_, ?_, ?_, ?_⟩
  · simp [LineReader.ofText, LineReader.ofLines, hl]
  · simp [LineReader.ofText, LineReader.ofLines, hl]
  · omega
  · have := c.utf8Size_pos
    rw [Line.stop, hltext, Text.size_append, Text.size_cons]
    omega

theorem LineReader.Holds.lt_count {line offset : Nat}
    (h : (LineReader.ofText t).Holds line offset) : line < (LineReader.ofText t).count := by
  obtain ⟨start, -, hstart, -⟩ := h
  obtain ⟨l, hl, -⟩ := Option.map_eq_some_iff.1 hstart
  exact (Array.getElem?_eq_some_iff.1 hl).1

theorem holds_of_isCode {k : PlacedToken} {c : Char} (h : k ∈ lang.placed t)
    (hk : k.isCode c = true) (hfeed : c ≠ '\n') (hreturn : c ≠ '\r') :
    (LineReader.ofText t).Holds k.line k.offset :=
  holds_of_mem_placed h (PlacedToken.isCode_iff.1 hk).2 hfeed hreturn

/-- **A line comment is the end of the line with its number.** -/
theorem suffix_of_lineComment {k : PlacedToken} (h : k ∈ lang.placed t)
    (hkind : k.kind = .lineComment) :
    ∃ u, (LineReader.ofText t).text? k.line = some u ∧
      Text.dropReturns k.text <:+ Text.dropReturns u := by
  obtain ⟨ks, ls, hsplit⟩ := List.append_of_mem h
  obtain ⟨hfeed, hbehind⟩ := Language.lineComment_of_append (Language.tokens_of_placed hsplit) hkind
  rw [PlacedToken.flatMap_text_map] at hbehind
  obtain ⟨c, more, htext⟩ :=
    List.exists_cons_of_ne_nil (Language.text_ne_nil_of_mem_placed h)
  have hc : c ≠ '\n' := by rintro rfl; exact hfeed (by simp [htext])
  obtain ⟨l, front, col, hl, -, hcol, hrow⟩ := exists_row_of_append hsplit htext hc
  have hcontent : (col ++ (k.text ++ PlacedToken.spelled ls)).takeWhile (· != '\n') =
      col ++ k.text := by
    rw [← List.append_assoc]
    exact Text.takeWhile_eq_of_split (by simp [hcol, hfeed]) hbehind
  have hdrop : Text.dropReturns (col ++ k.text) = Text.dropReturns l.text := by
    rcases hrow.row_eq with h | h
    · rw [← hcontent, h]
    · rw [← hcontent, h, Text.dropReturns_append_return]
  refine ⟨l.text, by simp [LineReader.ofText, LineReader.ofLines, hl], ?_⟩
  rw [← hdrop]
  exact Text.dropReturns_suffix col k.text

/-! ## Headers and comments -/

theorem line_headerBefore_le {o : PlacedToken} (h : o ∈ lang.placed t) :
    (headerBefore (lang.placed t) o).line.getD o.line ≤ o.line := by
  cases hl : (headerBefore (lang.placed t) o).line with
  | none => exact Nat.le_refl _
  | some n =>
    obtain ⟨k, hk, hle⟩ := exists_le_endLine_of_line hl
    have hlt : k.offset < o.offset := by simpa using List.mem_takeWhile_imp hk
    have hmem : k ∈ lang.placed t := (List.takeWhile_sublist _).subset hk
    exact Nat.le_trans hle (Language.endLine_le_of_offset_lt hmem h hlt)

theorem pairwise_line_lineComments (lang : Language) (t : Text) :
    (lineComments (lang.placed t)).Pairwise fun c d => c.2.line < d.2.line := by
  refine (Language.pairwise_line_placed lang t).filterMap _ fun j k hjk c hc d hd => ?_
  obtain ⟨hj, hc⟩ := Option.ite_none_right_eq_some.1 hc
  obtain ⟨hk, hd⟩ := Option.ite_none_right_eq_some.1 hd
  obtain rfl := Option.some.inj hc
  obtain rfl := Option.some.inj hd
  exact hjk hj (by simp [hk])

/-- **A method and its comments lie on the lines of the text.** -/
theorem liesIn_of_mem_methods {m : Method} (h : m ∈ (Survey.ofText lang t).methods) :
    m.LiesIn (LineReader.ofText t) := by
  obtain ⟨-, p, hp⟩ := Survey.exists_pair_of_mem_methods h
  obtain ⟨ho, hc⟩ := Prod.mk.inj hp.span_eq
  obtain ⟨hmo, hmc⟩ := hp.partners.mem
  obtain ⟨hopen, hclose, -⟩ := hp.partners
  have hlt : p.1.offset < p.2.offset :=
    offset_lt_of_mem_bracePairs (Language.pairwise_offset_placed lang t)
      (mem_bracePairs_iff.2 hp.partners)
  have hholdo := holds_of_isCode hmo hopen (by decide) (by decide)
  have hholdc := holds_of_isCode hmc hclose (by decide) (by decide)
  refine ⟨?_, ?_, ?_, ?_, ?_, ?_, ?_, ?_⟩
  · rw [hp.headerLine_eq, hp.openLine_eq]
    exact line_headerBefore_le hmo
  · rw [hp.openLine_eq, hp.closeLine_eq]
    exact Nat.le_trans (Nat.le_add_right _ _) (Language.endLine_le_of_offset_lt hmo hmc hlt)
  · rw [hp.closeLine_eq]
    exact hholdc.lt_count
  · rw [hp.openLine_eq, ho]
    exact hholdo
  · rw [hp.closeLine_eq, hc]
    exact hholdc
  · rw [hp.comments_eq, List.pairwise_map]
    exact (pairwise_line_lineComments lang t).filter _
  · intro c hmem
    obtain ⟨k, hk, hkind, hok, hkc, rfl⟩ := hp.mem_comments_iff.1 hmem
    have hbrace : p.2.kind ≠ .newline := by simp [(PlacedToken.isCode_iff.1 hclose).1]
    rw [hp.openLine_eq, hp.closeLine_eq]
    constructor
    · exact Nat.le_trans (Nat.le_add_right _ _)
        (Language.endLine_le_of_offset_lt hmo hk (ho ▸ hok))
    · exact Language.line_lt_of_offset_lt hk hmc hkind hbrace (hc ▸ hkc)
  · intro c hmem
    obtain ⟨k, hk, hkind, -, -, rfl⟩ := hp.mem_comments_iff.1 hmem
    exact suffix_of_lineComment hk hkind

/-- **Survey and reader number the lines of a file alike.** There is a flag for every line feed and
one more, so one more than lines if the text ends in a line feed; every method lies in the lines of
the reader; and its comments are all line comments that begin between its braces. -/
theorem survey_lines_agree (t : Text) (ext : String) :
    let lang := Language.ofExtension ext
    let v := Survey.ofText lang t
    let src := LineReader.ofText t
    v.commentFlags.size = Text.newlines t + 1 ∧
      v.commentFlags.size = src.count + (if t.getLast? = some '\n' then 1 else 0) ∧
      ∀ m ∈ v.methods, m.LiesIn src ∧
        ∀ k ∈ lang.placed t, k.kind = .lineComment → m.openOffset < k.offset →
          k.offset < m.closeOffset → ⟨k.line, Text.dropReturns k.text⟩ ∈ m.comments := by
  intro lang v src
  have hflags : v.commentFlags.size = Text.newlines t + 1 := by
    have hsize := size_flagLines (lang.tokens t)
    rwa [Language.flatMap_tokens] at hsize
  refine ⟨hflags, hflags.trans (Line.size_ofText t).symm, fun m hm => ?_⟩
  refine ⟨liesIn_of_mem_methods hm, fun k hk hkind hopen hclose => ?_⟩
  obtain ⟨-, p, hp⟩ := Survey.exists_pair_of_mem_methods hm
  exact hp.mem_comments_iff.2 ⟨k, hk, hkind, hopen, hclose, rfl⟩

/-- A method with a comment in front of a carriage return. -/
theorem survey_lines_agree_java :
    (⟨"f".toList, 0, 1, 2, 8, 18, [⟨1, "// one".toList⟩]⟩ : Method).LiesIn
      (LineReader.ofText "int f()\n\x7b // one\r\n\x7d".toList) := by
  have hmem : (⟨"f".toList, 0, 1, 2, 8, 18, [⟨1, "// one".toList⟩]⟩ : Method) ∈
      (Survey.ofText (Language.ofExtension "java")
        "int f()\n\x7b // one\r\n\x7d".toList).methods := by
    decide +kernel
  exact ((survey_lines_agree "int f()\n\x7b // one\r\n\x7d".toList "java").2.2 _ hmem).1

end CodeFolding
