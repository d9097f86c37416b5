import CodeFolding.FoldedFile
import CodeFolding.Proofs.Block.Changed
import CodeFolding.Proofs.Survey.Exchange
import CodeFolding.Proofs.Survey.Narrowed
import Mathlib.Order.Bounds.Basic
import Mathlib.Order.Lattice.Nat
/-!
# What a line comment says

A line comment in a method is a comment of every method around it, so the markers in it count for
all of them, and for no other method. Main statement: a method folds alike whatever a line comment
in the file says, if the comment is not in it or decides alike in both versions of the file
(`exchanged_of_recomments`). A method that is nested in another has no markers of its own: they are
read in the outer one as well (`inner_comment_changes_outer`).
-/
namespace CodeFolding

/-! ## Which comments decide -/

namespace MarkerPair

/-- Comment `i` opens the lines that are left: it is the first one with the opening marker. -/
def OpensAt (m : MarkerPair) (comments : List LineComment) (i : Nat) : Prop :=
  IsLeast (positions m.opening comments) i

/-- Comment `i` closes the lines that are left: beside the one that opens them it is the first one
with the closing marker. -/
def ClosesAt (m : MarkerPair) (comments : List LineComment) (i : Nat) : Prop :=
  ∃ k, m.OpensAt comments k ∧ IsLeast (positions m.closing comments \ {k}) i

/-- Comment `i` decides alike in two lists of comments: it opens the lines that are left in both or
in neither, and it closes them in both or in neither. -/
def DecidesAlike (m : MarkerPair) (comments comments' : List LineComment) (i : Nat) : Prop :=
  (m.OpensAt comments i ↔ m.OpensAt comments' i) ∧
    (m.ClosesAt comments i ↔ m.ClosesAt comments' i)

variable {m : MarkerPair} {above below : List LineComment} {c c' : LineComment}

/-- Two sets of numbers that differ at most in `i`, which is the least of both or of neither, have
the same least number. -/
theorem isLeast_congr {s s' : Set Nat} {i k : Nat} (hbeside : ∀ j ≠ i, j ∈ s ↔ j ∈ s')
    (hi : IsLeast s i ↔ IsLeast s' i) (h : IsLeast s k) : IsLeast s' k := by
  by_cases hk : k = i
  · rw [hk] at h ⊢
    exact hi.1 h
  · refine ⟨(hbeside k hk).1 h.1, fun j hj => ?_⟩
    by_cases hj' : j = i
    · subst hj'
      by_contra hlt
      have hleast : IsLeast s' j := by
        refine ⟨hj, fun l hl => ?_⟩
        by_cases hl' : l = j
        · exact Nat.le_of_eq hl'.symm
        · have := h.2 ((hbeside l hl').2 hl)
          omega
      exact hlt (h.2 (hi.2 hleast).1)
    · exact h.2 ((hbeside j hj').2 hj)

theorem getElem?_exchange {j : Nat} (h : j ≠ above.length) :
    (above ++ c :: below)[j]? = (above ++ c' :: below)[j]? := by
  rcases Nat.lt_or_gt_of_ne h with hlt | hgt
  · rw [List.getElem?_append_left hlt, List.getElem?_append_left hlt]
  · obtain ⟨k, rfl⟩ := Nat.exists_eq_add_of_lt hgt
    simp [List.getElem?_append_right, Nat.add_assoc]

theorem mem_positions_exchange {phrase : Text} {j : Nat} (h : j ≠ above.length) :
    j ∈ positions phrase (above ++ c :: below) ↔ j ∈ positions phrase (above ++ c' :: below) := by
  have hget : (above ++ c :: below)[j]? = (above ++ c' :: below)[j]? := getElem?_exchange h
  simp only [positions, Set.mem_ofPred_eq, hget]

theorem exists_line_exchange {d : LineComment} {j : Nat} (hline : c.line = c'.line)
    (h : (above ++ c :: below)[j]? = some d) :
    ∃ d', (above ++ c' :: below)[j]? = some d' ∧ d.line = d'.line := by
  by_cases hj : j = above.length
  · subst hj
    obtain rfl : c = d := by simpa using h
    exact ⟨c', by simp, hline⟩
  · exact ⟨d, (getElem?_exchange hj).symm.trans h, rfl⟩

theorem OpensAt.exchange {k : Nat}
    (h : m.DecidesAlike (above ++ c :: below) (above ++ c' :: below) above.length)
    (hk : m.OpensAt (above ++ c :: below) k) : m.OpensAt (above ++ c' :: below) k :=
  isLeast_congr (fun _ hj => mem_positions_exchange hj) h.1 hk

theorem isLeast_closing_exchange {j k : Nat}
    (h : m.DecidesAlike (above ++ c :: below) (above ++ c' :: below) above.length)
    (hk : m.OpensAt (above ++ c :: below) k) (hk' : m.OpensAt (above ++ c' :: below) k)
    (hj : IsLeast (positions m.closing (above ++ c :: below) \ {k}) j) :
    IsLeast (positions m.closing (above ++ c' :: below) \ {k}) j := by
  refine isLeast_congr (i := above.length) (fun i hi => ?_) ⟨fun hleast => ?_, fun hleast => ?_⟩ hj
  · exact and_congr_left fun _ => mem_positions_exchange hi
  · obtain ⟨l, hl, hleast'⟩ := h.2.1 ⟨k, hk, hleast⟩
    rwa [IsLeast.unique hl hk'] at hleast'
  · obtain ⟨l, hl, hleast'⟩ := h.2.2 ⟨k, hk', hleast⟩
    rwa [IsLeast.unique hl hk] at hleast'

theorem DecidesAlike.symm {comments comments' : List LineComment} {i : Nat}
    (h : m.DecidesAlike comments comments' i) : m.DecidesAlike comments' comments i :=
  ⟨h.1.symm, h.2.symm⟩

theorem positions_exchange_of_holds {phrase : Text}
    (h : Text.holds phrase c.text = Text.holds phrase c'.text) :
    positions phrase (above ++ c :: below) = positions phrase (above ++ c' :: below) := by
  have hinfix : phrase <:+: c.text ↔ phrase <:+: c'.text := by
    rw [← Text.holds_iff, h, Text.holds_iff]
  ext j
  by_cases hj : j = above.length
  · simp [positions, hj, hinfix]
  · exact mem_positions_exchange hj

/-- A comment that gives way to one with the same markers decides alike. -/
theorem decidesAlike_of_holds
    (hopening : Text.holds m.opening c.text = Text.holds m.opening c'.text)
    (hclosing : Text.holds m.closing c.text = Text.holds m.closing c'.text) :
    m.DecidesAlike (above ++ c :: below) (above ++ c' :: below) above.length := by
  have hopen : positions m.opening (above ++ c :: below) =
      positions m.opening (above ++ c' :: below) := positions_exchange_of_holds hopening
  have hclose : positions m.closing (above ++ c :: below) =
      positions m.closing (above ++ c' :: below) := positions_exchange_of_holds hclosing
  simp only [DecidesAlike, ClosesAt, OpensAt, hopen, hclose, and_self]

/-- **What a comment says does not matter where it decides alike.** -/
theorem narrow_exchange (hline : c.line = c'.line)
    (h : m.DecidesAlike (above ++ c :: below) (above ++ c' :: below) above.length)
    (body : LineRange) :
    m.narrow (above ++ c :: below) body = m.narrow (above ++ c' :: below) body := by
  by_cases hopening : positions m.opening (above ++ c :: below) = ∅
  · have hopening' : positions m.opening (above ++ c' :: below) = ∅ := by
      by_contra hne
      have hback : m.OpensAt (above ++ c :: below) _ :=
        OpensAt.exchange h.symm (isLeast_csInf (Set.nonempty_iff_ne_empty.2 hne))
      rw [OpensAt, hopening] at hback
      exact hback.1
    rw [narrow_eq_self body (positions_eq_empty_iff.1 hopening),
      narrow_eq_self body (positions_eq_empty_iff.1 hopening')]
  · obtain ⟨k, hk⟩ : ∃ k, m.OpensAt (above ++ c :: below) k :=
      ⟨_, isLeast_csInf (Set.nonempty_iff_ne_empty.2 hopening)⟩
    have hk' : m.OpensAt (above ++ c' :: below) k := OpensAt.exchange h hk
    obtain ⟨d, hd, -⟩ := hk.1
    obtain ⟨d', hd', hdline⟩ := exists_line_exchange hline hd
    rw [narrow_of_isLeast hk hd, narrow_of_isLeast hk' hd', hdline]
    by_cases hclosing : positions m.closing (above ++ c :: below) \ {k} = ∅
    · have hclosing' : positions m.closing (above ++ c' :: below) \ {k} = ∅ := by
        by_contra hne
        have hback := isLeast_closing_exchange h.symm hk' hk
          (isLeast_csInf (Set.nonempty_iff_ne_empty.2 hne))
        rw [hclosing] at hback
        exact hback.1
      rw [closingLine?_eraseIdx_eq_none hclosing, closingLine?_eraseIdx_eq_none hclosing']
    · have hj := isLeast_csInf (Set.nonempty_iff_ne_empty.2 hclosing)
      have hj' := isLeast_closing_exchange h hk hk' hj
      obtain ⟨e, he, -⟩ := hj.1.1
      obtain ⟨e', he', heline⟩ := exists_line_exchange hline he
      rw [closingLine?_eraseIdx hj he, closingLine?_eraseIdx hj' he', heline]

end MarkerPair

/-! ## Two files that differ in a line comment -/

/-- A line comment gives way to another of its size. Both end alike in a carriage return, which is
no part of what a comment says. -/
structure Language.Recomments (lang : Language) (front piece piece' behind : Text) : Prop where
  cutsOut : lang.CutsOut front piece behind .lineComment
  cutsOut' : lang.CutsOut front piece' behind .lineComment
  size_eq : Text.size piece = Text.size piece'
  return_iff : piece.getLast? = some '\r' ↔ piece'.getLast? = some '\r'

/-- The method `u` of the file `t` folds as the method `u'` of the file `t'` does: the lines in
which blocks are looked for are the same, and so are the regions, but for placeholders on one
line. -/
structure Settings.FoldsAlike (s : Settings) (lang : Language) (line : Nat) (t t' : Text)
    (u u' : Method) : Prop where
  scanned_eq : s.scanned u = s.scanned u'
  regions : List.Forall₂ (Region.AgreesBeside line)
    (s.layout.regions (.ofText t) (s.scanned u) (Survey.ofText lang t).isComment)
    (s.layout.regions (.ofText t') (s.scanned u') (Survey.ofText lang t').isComment)

/-- What the exchange of a line comment means for a method of the file. -/
structure Settings.Exchanged (s : Settings) (lang : Language) (front piece piece' behind : Text)
    (u u' : Method) : Prop where
  frame_eq : u.frame = u'.frame
  /-- A comment that is not between the braces means nothing. -/
  outside : u.encloses (Text.size front) = false → u.comments = u'.comments ∧
    s.FoldsAlike lang (Text.newlines front) (front ++ piece ++ behind) (front ++ piece' ++ behind)
      u u'
  /-- One that is between them means nothing if it decides alike. -/
  inside : u.encloses (Text.size front) = true → ∃ above below,
    u.comments = above ++ ⟨Text.newlines front, Text.dropReturns piece⟩ :: below ∧
    u'.comments = above ++ ⟨Text.newlines front, Text.dropReturns piece'⟩ :: below ∧
    (s.markers.DecidesAlike u.comments u'.comments above.length →
      s.FoldsAlike lang (Text.newlines front) (front ++ piece ++ behind)
        (front ++ piece' ++ behind) u u')

variable {lang : Language} {front piece piece' behind : Text} {m : Method} {s : Settings}

theorem Language.CutsOut.isInk (h : lang.CutsOut front piece behind .lineComment) :
    piece.IsInk ∧ (behind = [] ∨ behind.head? = some '\n') := by
  obtain ⟨ks, ls, hcut, hfront⟩ := h
  obtain ⟨hfeed, hend⟩ := lineComment_of_append hcut rfl
  have hbehind : ls.flatMap Token.text = behind := by
    rw [tokens_eq hcut hfront, flatMap_tokens]
  have hbegins := beginsWith_of_append hcut
  have hne : piece ≠ [] := text_ne_nil_of_mem_tokens (t := front ++ piece ++ behind)
    (k := ⟨.lineComment, piece⟩) (by rw [hcut]; simp)
  obtain ⟨c, rest, rfl⟩ := List.exists_cons_of_ne_nil hne
  refine ⟨⟨⟨c, rest, rfl, ?_⟩, hfeed⟩, hbehind ▸ hend⟩
  generalize hn : Token.text ⟨.lineComment, c :: rest⟩ ++ ls.flatMap Token.text = text at hbegins
  generalize (Token.text ⟨.lineComment, c :: rest⟩).length = n at hbegins
  cases hbegins with
  | lineComment hink =>
    obtain ⟨rfl, -⟩ := List.cons.inj hn
    exact hink

theorem Method.body_frame (m : Method) : m.frame.body = m.body := rfl

theorem Method.exists_comments (above below : List (Nat × LineComment)) (offset : Nat)
    (m : Method) :
    ∃ front rest, ∀ c : LineComment, (m.withComments (above ++ [(offset, c)] ++ below)).comments =
      if m.encloses offset then front ++ c :: rest else front ++ rest := by
  refine ⟨(above.filter fun c => m.encloses c.1).map Prod.snd,
    (below.filter fun c => m.encloses c.1).map Prod.snd, fun c => ?_⟩
  simp only [withComments, List.filter_append, List.map_append, List.filter_singleton]
  split
  · next h => simp [h]
  · next h => simp [h]

theorem Language.Recomments.isComment_eq (h : lang.Recomments front piece piece' behind) :
    (Survey.ofText lang (front ++ piece ++ behind)).isComment =
      (Survey.ofText lang (front ++ piece' ++ behind)).isComment := by
  obtain ⟨frames, above, below, docs, flags, hsurvey⟩ :=
    exists_survey lang front behind (Text.size piece) (Or.inl rfl)
  rw [hsurvey piece h.cutsOut h.cutsOut.isInk.1 rfl,
    hsurvey piece' h.cutsOut' h.cutsOut'.isInk.1 h.size_eq.symm]
  rfl

theorem Language.Recomments.foldsAlike {u u' : Method}
    (h : lang.Recomments front piece piece' behind) (hscanned : s.scanned u = s.scanned u') :
    s.FoldsAlike lang (Text.newlines front) (front ++ piece ++ behind) (front ++ piece' ++ behind)
      u u' := by
  refine ⟨hscanned, ?_⟩
  rw [← hscanned, ← h.isComment_eq]
  obtain ⟨⟨⟨c, rest, rfl, hink⟩, hfeed⟩, hbehind⟩ := h.cutsOut.isInk
  obtain ⟨⟨⟨c', rest', rfl, hink'⟩, hfeed'⟩, -⟩ := h.cutsOut'.isInk
  exact Layout.forall₂_regions_of_agreesBeside (LineReader.agreesBeside_ofText front hink hink'
    hfeed hfeed' h.size_eq h.return_iff hbehind) s.layout _ _

/-- **A comment that means the same to both versions of a method changes nothing.** -/
theorem Language.Recomments.exchanged {u u' : Method} {first rest : List LineComment}
    (h : lang.Recomments front piece piece' behind) (hframe : u.frame = u'.frame)
    (hcomments : u.comments = if u.encloses (Text.size front) then
      first ++ ⟨Text.newlines front, Text.dropReturns piece⟩ :: rest else first ++ rest)
    (hcomments' : u'.comments = if u.encloses (Text.size front) then
      first ++ ⟨Text.newlines front, Text.dropReturns piece'⟩ :: rest else first ++ rest) :
    s.Exchanged lang front piece piece' behind u u' := by
  have hbody : u.body = u'.body := by
    rw [← Method.body_frame, hframe, Method.body_frame]
  refine ⟨hframe, fun hout => ?_, fun hin => ?_⟩
  · rw [hout, if_neg Bool.false_ne_true] at hcomments hcomments'
    have heq := hcomments.trans hcomments'.symm
    refine ⟨heq, h.foldsAlike ?_⟩
    rw [Settings.scanned, Settings.scanned, heq, hbody]
  · rw [hin, if_pos rfl] at hcomments hcomments'
    refine ⟨first, rest, hcomments, hcomments', fun halike => h.foldsAlike ?_⟩
    rw [hcomments, hcomments'] at halike
    rw [Settings.scanned, Settings.scanned, hcomments, hcomments', hbody]
    refine MarkerPair.narrow_exchange ?_ halike u'.body
    rfl

/-- **A method folds alike whatever a line comment of the file says, unless the comment decides
there.** One line comment of a file gives way to another of its size. Then the file is switched on
in both versions or in neither, and it has the same methods by name, lines and offsets. A method
that does not hold the comment keeps its comments and folds as before. A method that holds it, be it
in a method further in, has the comment among its own, and it folds as before if both versions
decide alike: they are both or neither the first comment with the opening marker, and both or
neither the first other one with the closing marker. To fold as before is to be searched in the same
lines and to have the same regions, but for the placeholder of a region that begins on the line of
the comment. -/
theorem exchanged_of_recomments (s : Settings) (ext : String)
    (h : (Language.ofExtension ext).Recomments front piece piece' behind) :
    let lang := Language.ofExtension ext
    let v := Survey.ofText lang (front ++ piece ++ behind)
    let v' := Survey.ofText lang (front ++ piece' ++ behind)
    v.isSwitchedOn s = v'.isSwitchedOn s ∧
      List.Forall₂ (s.Exchanged lang front piece piece' behind) v.methods v'.methods := by
  intro lang v v'
  obtain ⟨frames, above, below, docs, flags, hsurvey⟩ :=
    exists_survey lang front behind (Text.size piece) (Or.inl rfl)
  have hv := hsurvey piece h.cutsOut h.cutsOut.isInk.1 rfl
  have hv' := hsurvey piece' h.cutsOut' h.cutsOut'.isInk.1 h.size_eq.symm
  refine ⟨?_, ?_⟩
  · simp only [v, v', hv, hv']
    rfl
  · simp only [v, v', hv, hv']
    rw [List.forall₂_map_left_iff, List.forall₂_map_right_iff, List.forall₂_same]
    intro m _
    obtain ⟨first, rest, hcomments⟩ := m.exists_comments above below (Text.size front)
    exact h.exchanged rfl (hcomments _) (hcomments _)

/-- A comment in a method further in opens the lines of both methods, in both versions. -/
theorem exchanged_of_recomments_nested :
    let front := "function f() \x7b\nfunction g() \x7b\nb(); ".toList
    let piece := "// on.".toList
    let piece' := "//on ;".toList
    let behind := "\n    c();\nd();\n    e();\nf();\n\x7d\n\x7d\n".toList
    let s : Settings := { requireActivation := false, markers := ⟨"on".toList, "off".toList⟩ }
    let t := front ++ piece ++ behind
    let t' := front ++ piece' ++ behind
    (Language.ofExtension "js").Recomments front piece piece' behind ∧
      ∃ u u', (Survey.ofText .braces t).methods.head? = some u ∧
        (Survey.ofText .braces t').methods.head? = some u' ∧ s.scanned u' = ⟨3, 8⟩ ∧
        (s.layout.regions (.ofText t') (s.scanned u') (Survey.ofText .braces t').isComment).length =
          1 := by
  intro front piece piece' behind s t t'
  have hjs : Language.ofExtension "js" = .braces := by decide
  have h : (Language.ofExtension "js").Recomments front piece piece' behind := by
    rw [hjs]
    exact ⟨.of_tokens (by decide +kernel), .of_tokens (by decide +kernel), by decide, by decide⟩
  let u : Method := ⟨"f".toList, 0, 0, 8, 13, 72, [⟨2, piece⟩]⟩
  have hmethods : (Survey.ofText .braces t).methods =
      [u, ⟨"g".toList, 1, 1, 7, 28, 70, [⟨2, piece⟩]⟩] :=
    Survey.methods_eq_of_perm (by decide +kernel) (by decide +kernel)
  have hregions : (s.layout.regions (.ofText t) (s.scanned u)
      (Survey.ofText .braces t).isComment).length = 1 := by decide +kernel
  obtain ⟨-, hall⟩ := exchanged_of_recomments s "js" h
  rw [hjs] at hall
  rw [hmethods] at hall ⊢
  generalize (Survey.ofText .braces (front ++ piece' ++ behind)).methods = ms at hall
  cases hall with
  | @cons _ u' _ _ hu _ =>
    obtain ⟨above, below, hcomments, hcomments', hfolds⟩ := hu.inside (by decide +kernel)
    rw [hcomments, hcomments'] at hfolds
    obtain ⟨hscanned, hsame⟩ := hfolds (MarkerPair.decidesAlike_of_holds (by decide +kernel)
      (by decide +kernel))
    have hbounds : s.scanned u = ⟨3, 8⟩ := by decide +kernel
    refine ⟨h, u, u', rfl, rfl, hscanned ▸ hbounds, ?_⟩
    rw [← hregions]
    exact hsame.length_eq.symm

/-- A marker in a method further in narrows the method around it; and what a comment says there is
the placeholder of a region that begins on its line, in both methods. -/
theorem inner_comment_changes_outer :
    let s : Settings := { requireActivation := false, markers := ⟨"on".toList, "off".toList⟩ }
    let regions := fun t => (Survey.ofText .braces t).methods.map fun u =>
      s.layout.regions (.ofText t) (s.scanned u) (Survey.ofText .braces t).isComment
    let g : Region := ⟨15, 33, "a();...".toList, 1, 3⟩
    let h : Region := ⟨30, 54, ".y...".toList, 2, 4⟩
    let h' : Region := ⟨30, 54, "a(); ...".toList, 2, 4⟩
    Language.ofExtension "js" = .braces ∧
      (let front := "function f() \x7b\na();\n    b();\nc();\nfunction g() \x7b\n".toList
        let behind := "\nd();\n\x7d\n\x7d\n".toList
        Language.braces.Recomments front "// on".toList "// no".toList behind ∧
          regions (front ++ "// on".toList ++ behind) = [[], []] ∧
          regions (front ++ "// no".toList ++ behind) = [[g], []]) ∧
      let front := "function f() \x7b\nfunction g() \x7b\na(); ".toList
      let behind := "\n    b();\nc();\n\x7d\n\x7d\n".toList
      Language.braces.Recomments front "// .y".toList "// zz".toList behind ∧
        regions (front ++ "// .y".toList ++ behind) = [[h], [h]] ∧
        regions (front ++ "// zz".toList ++ behind) = [[h'], [h']] := by
  intro s regions _ _ _
  have hregions : ∀ (ms : List Method) {t : Text}, (Survey.ofText .braces t).methods = ms →
      regions t = ms.map fun u =>
        s.layout.regions (.ofText t) (s.scanned u) (Survey.ofText .braces t).isComment :=
    fun _ _ h => congrArg (List.map _) h
  refine ⟨by decide, ?_, ?_⟩
  · intro front behind
    let f : Text → Method := fun text => ⟨"f".toList, 0, 0, 8, 13, 62, [⟨5, text⟩]⟩
    let g : Text → Method := fun text => ⟨"g".toList, 4, 4, 7, 47, 60, [⟨5, text⟩]⟩
    refine ⟨⟨.of_tokens (by decide +kernel), .of_tokens (by decide +kernel), by decide, by decide⟩,
      ?_, ?_⟩
    · rw [hregions [f "// on".toList, g "// on".toList]
        (Survey.methods_eq_of_perm (by decide +kernel) (by decide +kernel))]
      decide +kernel
    · rw [hregions [f "// no".toList, g "// no".toList]
        (Survey.methods_eq_of_perm (by decide +kernel) (by decide +kernel))]
      decide +kernel
  · intro front behind
    let f : Text → Method := fun text => ⟨"f".toList, 0, 0, 6, 13, 57, [⟨2, text⟩]⟩
    let g : Text → Method := fun text => ⟨"g".toList, 1, 1, 5, 28, 55, [⟨2, text⟩]⟩
    refine ⟨⟨.of_tokens (by decide +kernel), .of_tokens (by decide +kernel), by decide, by decide⟩,
      ?_, ?_⟩
    · rw [hregions [f "// .y".toList, g "// .y".toList]
        (Survey.methods_eq_of_perm (by decide +kernel) (by decide +kernel))]
      decide +kernel
    · rw [hregions [f "// zz".toList, g "// zz".toList]
        (Survey.methods_eq_of_perm (by decide +kernel) (by decide +kernel))]
      decide +kernel

end CodeFolding
