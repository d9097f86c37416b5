import CodeFolding.Proofs.Scanner.Header
import CodeFolding.Proofs.Survey.Flags
/-!
# One round of the scanner

In each round the scanner reads the token that begins at its byte offset and moves to its end, which
it finds by offsets and slices alone. Every slice and every index into the flags of the lines may be
a fault. Main statement: behind some tokens of a text the round reads the next one without a fault
(`round?_behind`).
-/
namespace CodeFolding

open Text PlacedToken

/-! ## Lines -/

/-- The running line, whether it has a token yet, and which lines begin with a comment. -/
structure LineMarks where
  line : Nat := 0
  hasToken : Bool := false
  flags : Array Bool := #[false]

namespace LineMarks

def feed (m : LineMarks) : LineMarks := ⟨m.line + 1, false, m.flags.push false⟩

/-- Reads a token, which flags its line if it is a comment and the first one there. -/
def mark (isComment : Bool) (m : LineMarks) : Except Fault LineMarks :=
  if m.hasToken then .ok m
  else if isComment then
    if h : m.line < m.flags.size then .ok ⟨m.line, true, m.flags.set m.line true h⟩
    else .error .index
  else .ok { m with hasToken := true }

/-- Reads one character of a token that may span lines. -/
def readChar (isComment : Bool) (m : LineMarks) (c : Char) : Except Fault LineMarks :=
  if c = '\n' then .ok m.feed
  else if isBlank c then .ok m
  else m.mark isComment

/-- Reads a token that may span lines. -/
def walk (isComment : Bool) (m : LineMarks) (t : Text) : Except Fault LineMarks :=
  t.foldlM (readChar isComment) m

def ofFlags (f : LineFlags) : LineMarks := ⟨f.done.size, f.running.isSome, f.all⟩

theorem line_lt_size (f : LineFlags) : (ofFlags f).line < (ofFlags f).flags.size := by
  rw [ofFlags, LineFlags.all, Array.size_push]
  exact Nat.lt_succ_self _

theorem feed_ofFlags (f : LineFlags) (isComment : Bool) :
    (ofFlags f).feed = ofFlags (f.read isComment '\n') := by
  simp [ofFlags, feed, LineFlags.read, LineFlags.all]

/-- **The running line always has a flag to set.** -/
theorem mark_ofFlags (f : LineFlags) (isComment : Bool) :
    (ofFlags f).mark isComment =
      .ok (ofFlags { f with running := f.running <|> some isComment }) := by
  cases hrun : f.running with
  | some b => simp [mark, ofFlags, hrun, LineFlags.all]
  | none =>
    cases isComment with
    | false => simp [mark, ofFlags, hrun, LineFlags.all]
    | true =>
      rw [mark, if_neg (by simp [ofFlags, hrun]), if_pos rfl, dif_pos (line_lt_size f)]
      have hset : (f.done.push false).set f.done.size true (by simp) = f.done.push true :=
        Array.toList_inj.1 (by simp)
      simpa [ofFlags, LineFlags.all, hrun] using hset

theorem readChar_ofFlags (f : LineFlags) (isComment : Bool) (c : Char) :
    (ofFlags f).readChar isComment c = .ok (ofFlags (f.read isComment c)) := by
  rw [readChar, LineFlags.read]
  split
  · next hc => rw [feed_ofFlags f isComment, LineFlags.read, if_pos rfl]
  · split
    · rfl
    · exact mark_ofFlags f isComment

/-- **A token over several lines is read without a fault.** -/
theorem walk_ofFlags (f : LineFlags) (isComment : Bool) (t : Text) :
    (ofFlags f).walk isComment t = .ok (ofFlags (t.foldl (LineFlags.read isComment) f)) := by
  induction t generalizing f with
  | nil => rfl
  | cons c t ih =>
    rw [walk, List.foldlM_cons, readChar_ofFlags, Fault.ok_bind]
    exact ih _

end LineMarks

/-! ## Braces -/

namespace BraceState

def mapHeader (f : HeaderText → HeaderText) (s : BraceState) : BraceState :=
  { s with header := f s.header }

/-- An opening brace, whose header is looked at only in a language with braces. -/
def sliceOpenBrace (lang : Language) (s : BraceState) (line offset : Nat) :
    Except Fault BraceState := do
  let name ← if lang = .braces then Header.sliceMethod? s.header.reversed.reverse else .ok none
  let method := name.map fun name => (name, s.header.line.getD line)
  return { s with header := {}, braces := ⟨method, line, offset⟩ :: s.braces }

/-- Reads a character of code that stands on a line and at an offset. -/
def sliceCode (lang : Language) (c : Char) (line offset : Nat) (s : BraceState) :
    Except Fault BraceState :=
  if c = '{' then s.sliceOpenBrace lang line offset
  else if c = '}' then .ok (s.closeBrace line offset)
  else if c = ';' then .ok (s.mapHeader fun _ => {})
  else .ok (s.mapHeader (·.addCode [c] line))

/-- What is known of braces in a language: without braces no method is. -/
def seenBy (lang : Language) (s : BraceState) : BraceState :=
  if lang = .braces then s
  else { s with braces := s.braces.map ({ · with method := none }), methods := [] }

variable {lang : Language}

@[simp] theorem header_seenBy (s : BraceState) : (s.seenBy lang).header = s.header := by
  unfold seenBy
  split <;> rfl

theorem mapHeader_seenBy (f : HeaderText → HeaderText) (s : BraceState) :
    (s.seenBy lang).mapHeader f = (s.mapHeader f).seenBy lang := by
  unfold seenBy
  split <;> rfl

theorem sliceOpenBrace_seenBy (s : BraceState) (line offset : Nat) :
    (s.seenBy lang).sliceOpenBrace lang line offset =
      .ok ((s.openBrace line offset).seenBy lang) := by
  rw [sliceOpenBrace, header_seenBy, Header.sliceMethod?_eq]
  by_cases h : lang = .braces
  · simp only [h, if_pos, Fault.ok_bind]
    rfl
  · simp only [h, if_neg, not_false_eq_true, Fault.ok_bind, seenBy, openBrace, List.map_cons]
    rfl

theorem closeBrace_seenBy (s : BraceState) (line offset : Nat) :
    (s.seenBy lang).closeBrace line offset = (s.closeBrace line offset).seenBy lang := by
  by_cases h : lang = .braces
  · simp [seenBy, h]
  · cases hb : s.braces with
    | nil => simp [seenBy, h, closeBrace, hb]
    | cons b outer => simp [seenBy, h, closeBrace, hb]

/-- **A character of code is read without a fault.** -/
theorem sliceCode_seenBy (s : BraceState) (c : Char) (line offset : Nat) :
    (s.seenBy lang).sliceCode lang c line offset =
      .ok ((s.read ⟨⟨.code, [c]⟩, offset, line⟩).seenBy lang) := by
  unfold sliceCode
  split
  · next hc => rw [sliceOpenBrace_seenBy, hc]; rfl
  · split
    · next hc => rw [closeBrace_seenBy, hc]; rfl
    · split
      · next hc => rw [mapHeader_seenBy, hc]; rfl
      · next hopen hclose hend =>
        rw [mapHeader_seenBy]
        simp [read, hopen, hclose, hend, mapHeader]

end BraceState

/-! ## Rounds -/

/-- What is known in the middle of a text. -/
@[ext]
structure Scanner where
  offset : Nat := 0
  lines : LineMarks := {}
  comments : List (Nat × LineComment) := []
  docs : List Text := []
  braces : BraceState := {}

/-- One round: the kind of the token, its offset, and what is known behind it. -/
structure Round where
  kind : TokenKind
  start : Nat
  after : Scanner

/-- Where a round begins and ends. -/
def Round.span (r : Round) : Nat × Nat := (r.start, r.after.offset)

namespace Scanner

/-- Reads a line comment, which runs to the next line feed. -/
def readLineComment (src : Text) (s : Scanner) : Except Fault Scanner := do
  let rest ← sliceFrom src s.offset
  let stop := ((findChar? (· == '\n') rest).map (s.offset + ·)).getD (size src)
  let lines ← s.lines.mark true
  let text ← slice src s.offset stop
  let comment := (s.offset, ⟨lines.line, dropReturns text⟩)
  return { s with offset := stop, lines, comments := s.comments ++ [comment] }

/-- Reads a block comment, which runs through its closing mark. -/
def readBlockComment (lang : Language) (src opening closing : Text) (s : Scanner) :
    Except Fault Scanner := do
  let stop ← through src closing (s.offset + size opening)
  let text ← slice src s.offset stop
  let isDoc := lang.comments.doc.any (·.isPrefixOf text) && text != ['/', '*', '*', '/']
  let docs := if isDoc then s.docs ++ [text] else s.docs
  let lines ← s.lines.walk true text
  return { s with offset := stop, lines, docs, braces := s.braces.mapHeader .addBlank }

def readLiteral (src : Text) (stop : Nat) (s : Scanner) : Except Fault Scanner := do
  let lines ← s.lines.walk false (← slice src s.offset stop)
  let braces := s.braces.mapHeader (·.addCode BraceState.literalStandIn lines.line)
  return { s with offset := stop, lines, braces }

def readCode (lang : Language) (c : Char) (s : Scanner) : Except Fault Scanner := do
  let lines ← s.lines.mark false
  let braces ← s.braces.sliceCode lang c lines.line s.offset
  return { s with offset := s.offset + c.utf8Size, lines, braces }

/-- Reads what begins with `c` and is neither blank nor a line comment. -/
def readInk (lang : Language) (src : Text) (c : Char) (s : Scanner) : Except Fault Round := do
  let rest ← sliceFrom src s.offset
  match lang.comments.block.filter (·.1.isPrefixOf rest) with
  | some (opening, closing) =>
    return ⟨.blockComment, s.offset, ← s.readBlockComment lang src opening closing⟩
  | none =>
    match ← lang.literalStop? src s.offset with
    | some stop => return ⟨.literal, s.offset, ← s.readLiteral src stop⟩
    | none => return ⟨.code, s.offset, ← s.readCode lang c⟩

/-- Reads what begins at the offset; nothing does at the end of the text. -/
def round? (lang : Language) (src : Text) (s : Scanner) : Except Fault (Option Round) := do
  let rest ← sliceFrom src s.offset
  match rest with
  | [] => return none
  | c :: _ =>
    let braces := s.braces.mapHeader .addBlank
    if c = '\n' then
      return some ⟨.newline, s.offset,
        { s with offset := s.offset + 1, lines := s.lines.feed, braces }⟩
    else if isBlank c then
      return some ⟨.blank, s.offset, { s with offset := s.offset + c.utf8Size, braces }⟩
    else if lang.beginsLineComment rest then
      return some ⟨.lineComment, s.offset, ← s.readLineComment src⟩
    else return some (← s.readInk lang src c)

/-! ## What is known behind some tokens -/

/-- The flags of lines behind some tokens. -/
def flagsBehind (ks : List PlacedToken) : LineFlags :=
  (ks.map toToken).foldl LineFlags.readToken {}

/-- What is known behind some tokens. -/
def behind (lang : Language) (ks : List PlacedToken) : Scanner where
  offset := size (spelled ks)
  lines := .ofFlags (flagsBehind ks)
  comments := lineComments ks
  docs := lang.docComments (ks.map toToken)
  braces := (ks.foldl BraceState.read {}).seenBy lang

variable {lang : Language} {ks : List PlacedToken}

@[simp] theorem offset_behind :
    (behind lang ks).offset = size (spelled ks) := rfl

@[simp] theorem lines_behind : (behind lang ks).lines = .ofFlags (flagsBehind ks) := rfl

theorem behind_nil (lang : Language) : behind lang [] = {} := by
  have hbraces : BraceState.seenBy lang {} = {} := by
    unfold BraceState.seenBy
    split <;> rfl
  rw [behind, List.foldl_nil, hbraces]
  rfl

theorem size_done_flagsBehind (ks : List PlacedToken) :
    (flagsBehind ks).done.size = newlines (spelled ks) := by
  rw [← flatMap_text_map, ← unmark_marks]
  exact (LineFlags.describes_foldl _).size_done

theorem size_done_readToken (ks : List PlacedToken) (k : PlacedToken) :
    ((flagsBehind ks).readToken k.toToken).done.size =
      newlines (spelled ks) + newlines k.text := by
  have hsize := size_done_flagsBehind (ks ++ [k])
  rwa [flagsBehind, List.map_append, List.foldl_append, spelled_append,
    newlines_append, spelled_cons, spelled_nil, List.append_nil] at hsize

theorem line_lt_size_behind : (behind lang ks).lines.line < (behind lang ks).lines.flags.size :=
  LineMarks.line_lt_size _

theorem behind_append {k : PlacedToken} {lines : LineMarks}
    {comments : List (Nat × LineComment)} {docs : List Text} {braces : BraceState}
    (hlines : LineMarks.ofFlags ((flagsBehind ks).readToken k.toToken) = lines)
    (hcomments : (behind lang ks).comments ++ k.lineComment?.toList = comments)
    (hdocs : (behind lang ks).docs ++ (if lang.isDoc k.toToken then [k.text] else []) = docs)
    (hbraces : ((ks.foldl BraceState.read {}).read k).seenBy lang = braces) :
    behind lang (ks ++ [k]) =
      ⟨size (spelled ks) + size k.text, lines, comments, docs, braces⟩ := by
  refine Scanner.ext ?_ ?_ ?_ ?_ ?_
  · simp [behind]
  · simpa [behind, flagsBehind] using hlines
  · rw [← hcomments]
    simp only [behind, lineComments, List.filterMap_append]
    cases h : k.lineComment? <;> simp [h]
  · rw [← hdocs]
    simp only [behind, Language.docComments, List.map_append, List.filter_append]
    cases h : lang.isDoc k.toToken <;> simp [h]
  · simpa [behind] using hbraces

/-- The token of a kind and a text that comes next. -/
def next (ks : List PlacedToken) (kind : TokenKind) (text : Text) : PlacedToken :=
  ⟨⟨kind, text⟩, size (spelled ks), newlines (spelled ks)⟩

theorem isDoc_of_ne {k : Token} (h : k.kind ≠ .blockComment) : lang.isDoc k = false := by
  simp [Language.isDoc, h]

theorem lineComment?_of_ne {k : PlacedToken} (h : k.kind ≠ .lineComment) :
    k.lineComment? = none := if_neg h

theorem behind_append_blank {kind : TokenKind} {text : Text} {lines : LineMarks}
    (h : kind = .newline ∨ kind = .blank)
    (hlines : LineMarks.ofFlags (text.foldl (LineFlags.read false) (flagsBehind ks)) = lines) :
    behind lang (ks ++ [next ks kind text]) =
      { behind lang ks with
        offset := size (spelled ks) + size text
        lines
        braces := (behind lang ks).braces.mapHeader .addBlank } := by
  refine behind_append ?_ ?_ ?_ ?_
  · rw [← hlines]
    rcases h with rfl | rfl <;> rfl
  · rw [lineComment?_of_ne (by rcases h with rfl | rfl <;> simp [next])]
    exact List.append_nil _
  · rw [isDoc_of_ne (by rcases h with rfl | rfl <;> simp [next])]
    exact List.append_nil _
  · refine Eq.trans ?_ (BraceState.mapHeader_seenBy _ _).symm
    rcases h with rfl | rfl <;> rfl

theorem readLineComment_behind {c : Char} {rest : Text} (hink : isBlank c = false) :
    (behind lang ks).readLineComment (spelled ks ++ c :: rest) =
      .ok (behind lang (ks ++ [next ks .lineComment ((c :: rest).takeWhile (· != '\n'))])) := by
  have hrow : (c :: rest).takeWhile (· != '\n') = c :: rest.takeWhile (· != '\n') := by
    simp [Language.ne_feed_of_isBlank hink]
  have hstop : ((findChar? (· == '\n') (c :: rest)).map (size (spelled ks) + ·)).getD
      (size (spelled ks ++ c :: rest)) =
        size (spelled ks) + size ((c :: rest).takeWhile (· != '\n')) := by
    rw [size_append]
    exact (Option.getD_map (size (spelled ks) + ·) _ _).trans
      (congrArg _ (getD_findChar? (· == '\n') _))
  have hslice := slice_append (spelled ks) ((c :: rest).takeWhile (· != '\n'))
    ((c :: rest).dropWhile (· != '\n'))
  rw [List.takeWhile_append_dropWhile] at hslice
  rw [readLineComment, offset_behind, lines_behind, sliceFrom_append, Fault.ok_bind]
  dsimp only
  rw [hstop, LineMarks.mark_ofFlags, Fault.ok_bind, hslice, Fault.ok_bind]
  refine congrArg Except.ok (Eq.symm (behind_append ?_ ?_ ?_ ?_))
  · rw [LineFlags.readToken, hrow]
    exact congrArg _ (LineFlags.foldl_read_row hink (hrow ▸ not_mem_takeWhile (c :: rest)))
  · exact congrArg (fun n => (behind lang ks).comments ++
      [(size (spelled ks), ⟨n, dropReturns ((c :: rest).takeWhile (· != '\n'))⟩)])
        (size_done_flagsBehind ks).symm
  · exact List.append_nil _
  · rfl

theorem readBlockComment_behind (opening closing rest : Text) :
    (behind lang ks).readBlockComment lang (spelled ks ++ (opening ++ rest)) opening closing =
      .ok (behind lang (ks ++ [next ks .blockComment
        ((opening ++ rest).take (lengthThrough closing rest opening.length))])) := by
  rw [readBlockComment, offset_behind, lines_behind, through_append, Fault.ok_bind, slice_take,
    Fault.ok_bind]
  generalize (opening ++ rest).take (lengthThrough closing rest opening.length) = text
  have hdoc : lang.isDoc (next ks .blockComment text).toToken =
      (lang.comments.doc.any (·.isPrefixOf text) && text != ['/', '*', '*', '/']) := by
    simp [Language.isDoc, next]
  dsimp only
  rw [LineMarks.walk_ofFlags, Fault.ok_bind]
  refine congrArg Except.ok (Eq.symm (behind_append ?_ ?_ ?_ ?_))
  · rfl
  · exact List.append_nil _
  · rw [hdoc]
    split
    · rfl
    · exact List.append_nil _
  · exact (BraceState.mapHeader_seenBy _ _).symm

theorem readLiteral_behind (t : Text) (n : Nat) :
    (behind lang ks).readLiteral (spelled ks ++ t) (size (spelled ks) + size (t.take n)) =
      .ok (behind lang (ks ++ [next ks .literal (t.take n)])) := by
  rw [readLiteral, offset_behind, lines_behind, slice_take, Fault.ok_bind, LineMarks.walk_ofFlags,
    Fault.ok_bind]
  generalize t.take n = text
  have hline := size_done_readToken ks (next ks .literal text)
  refine congrArg Except.ok (Eq.symm (behind_append (k := next ks .literal text) ?_ ?_ ?_ ?_))
  · rfl
  · exact List.append_nil _
  · exact List.append_nil _
  · refine Eq.trans ?_ (BraceState.mapHeader_seenBy _ _).symm
    exact congrArg (fun n => ((ks.foldl BraceState.read {}).mapHeader
      (·.addCode BraceState.literalStandIn n)).seenBy lang) hline.symm

theorem readCode_behind {c : Char} (hink : isBlank c = false) :
    (behind lang ks).readCode lang c = .ok (behind lang (ks ++ [next ks .code [c]])) := by
  have hrow : '\n' ∉ [c] := by simpa using Ne.symm (Language.ne_feed_of_isBlank hink)
  have hsize : c.utf8Size = size [c] := by simp
  have hcode : (behind lang ks).braces.sliceCode lang c (flagsBehind ks).done.size
      (size (spelled ks)) = .ok (((ks.foldl BraceState.read {}).read
        ⟨⟨.code, [c]⟩, size (spelled ks), (flagsBehind ks).done.size⟩).seenBy lang) :=
    BraceState.sliceCode_seenBy _ _ _ _
  rw [readCode, lines_behind, LineMarks.mark_ofFlags, Fault.ok_bind, offset_behind]
  refine (congrArg (· >>= _) hcode).trans ?_
  rw [Fault.ok_bind, hsize]
  refine congrArg Except.ok (Eq.symm (behind_append (k := next ks .code [c]) ?_ ?_ ?_ ?_))
  · exact congrArg _ (LineFlags.foldl_read_row hink hrow)
  · exact List.append_nil _
  · exact List.append_nil _
  · rw [next, ← size_done_flagsBehind ks]

section

variable {c : Char} {rest : Text} {n : Nat}

theorem readInk_of_block (h : lang.blockLength? (c :: rest) = some n) :
    (behind lang ks).readInk lang (spelled ks ++ c :: rest) c =
      .ok ⟨.blockComment, size (spelled ks),
        behind lang (ks ++ [next ks .blockComment ((c :: rest).take n)])⟩ := by
  rw [Language.blockLength?_eq, Option.map_eq_some_iff] at h
  obtain ⟨⟨opening, closing⟩, hmarks, rfl⟩ := h
  obtain ⟨more, hmore⟩ := List.isPrefixOf_iff_prefix.1 (Option.filter_eq_some_iff.1 hmarks).2
  rw [readInk, offset_behind, sliceFrom_append, Fault.ok_bind, hmarks, ← hmore]
  dsimp only
  rw [readBlockComment_behind, List.drop_left]
  rfl

theorem readInk_of_not_block (hblock : lang.blockLength? (c :: rest) = none) :
    (behind lang ks).readInk lang (spelled ks ++ c :: rest) c =
      match (lang.literalLength? (c :: rest)).map fun n =>
        size (spelled ks) + size ((c :: rest).take n) with
      | some stop => do
        return ⟨.literal, size (spelled ks),
          ← (behind lang ks).readLiteral (spelled ks ++ c :: rest) stop⟩
      | none => do return ⟨.code, size (spelled ks), ← (behind lang ks).readCode lang c⟩ := by
  rw [Language.blockLength?_eq, Option.map_eq_none_iff] at hblock
  rw [readInk, offset_behind, sliceFrom_append, Fault.ok_bind, hblock]
  dsimp only
  rw [Language.literalStop?_append, Fault.ok_bind]

theorem readInk_of_literal (hblock : lang.blockLength? (c :: rest) = none)
    (h : lang.literalLength? (c :: rest) = some n) :
    (behind lang ks).readInk lang (spelled ks ++ c :: rest) c =
      .ok ⟨.literal, size (spelled ks),
        behind lang (ks ++ [next ks .literal ((c :: rest).take n)])⟩ := by
  rw [readInk_of_not_block hblock, h]
  dsimp only [Option.map_some]
  rw [readLiteral_behind]
  rfl

theorem readInk_of_code (hink : isBlank c = false) (hblock : lang.blockLength? (c :: rest) = none)
    (h : lang.literalLength? (c :: rest) = none) :
    (behind lang ks).readInk lang (spelled ks ++ c :: rest) c =
      .ok ⟨.code, size (spelled ks), behind lang (ks ++ [next ks .code [c]])⟩ := by
  rw [readInk_of_not_block hblock, h]
  dsimp only [Option.map_none]
  rw [readCode_behind hink]
  rfl

theorem round?_of_ink (hink : isBlank c = false)
    (hline : lang.beginsLineComment (c :: rest) = false) :
    (behind lang ks).round? lang (spelled ks ++ c :: rest) =
      some <$> (behind lang ks).readInk lang (spelled ks ++ c :: rest) c := by
  rw [round?, offset_behind, sliceFrom_append, Fault.ok_bind]
  dsimp only
  rw [if_neg (Language.ne_feed_of_isBlank hink), if_neg (by simp [hink]), if_neg (by simp [hline])]
  rfl

end

/-- **A round reads the token that the text begins with, without a fault.** -/
theorem round?_behind (ks : List PlacedToken) {t : Text} {kind : TokenKind} {n : Nat}
    (h : lang.BeginsWith t kind n) :
    (behind lang ks).round? lang (spelled ks ++ t) =
      .ok (some ⟨kind, size (spelled ks), behind lang (ks ++ [next ks kind (t.take n)])⟩) := by
  cases h with
  | newline rest =>
    have hlines : LineMarks.ofFlags (['\n'].foldl (LineFlags.read false) (flagsBehind ks)) =
        (behind lang ks).lines.feed := (LineMarks.feed_ofFlags _ false).symm
    rw [round?, offset_behind, sliceFrom_append, Fault.ok_bind]
    dsimp only
    rw [if_pos rfl, List.take_succ_cons, List.take_zero, behind_append_blank (Or.inl rfl) hlines]
    rfl
  | @blank c rest hfeed hblank =>
    have hlines : LineMarks.ofFlags ([c].foldl (LineFlags.read false) (flagsBehind ks)) =
        (behind lang ks).lines := by
      simp [LineFlags.read, hfeed, hblank]
    have hsize : size [c] = c.utf8Size := by simp
    rw [round?, offset_behind, sliceFrom_append, Fault.ok_bind]
    dsimp only
    rw [if_neg hfeed, if_pos hblank, List.take_succ_cons, List.take_zero,
      behind_append_blank (Or.inr rfl) hlines, hsize]
    rfl
  | @lineComment c rest hink hline =>
    have htake : (c :: rest).take ((c :: rest).takeWhile (· != '\n')).length =
      (c :: rest).takeWhile (· != '\n') :=
        (List.prefix_iff_eq_take.1 (List.takeWhile_prefix _)).symm
    rw [round?, offset_behind, sliceFrom_append, Fault.ok_bind]
    dsimp only
    rw [if_neg (Language.ne_feed_of_isBlank hink), if_neg (by simp [hink]), if_pos hline,
      readLineComment_behind hink, htake]
    rfl
  | blockComment hink hline hblock =>
    rw [round?_of_ink hink hline, readInk_of_block hblock]
    rfl
  | literal hink hline hblock hliteral =>
    rw [round?_of_ink hink hline, readInk_of_literal hblock hliteral]
    rfl
  | code hink hline hblock hliteral =>
    rw [round?_of_ink hink hline, readInk_of_code hink hblock hliteral]
    rfl

end Scanner

end CodeFolding
