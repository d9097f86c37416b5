import CodeFolding.Proofs.Survey.Lines
import CodeFolding.Proofs.Text.Brackets
import CodeFolding.Proofs.Token.Extent
import Mathlib.Data.Fintype.Basic
import Mathlib.Data.List.DropRight
/-!
# The line a declaration begins on

A declaration reaches from behind the nearest brace or semicolon up to the brace of its body. A
brace or semicolon in parentheses of the declaration, as in the arguments of an annotation, is part
of it. The scanner does not count parentheses, and it takes the line of a literal when it is behind
it. Main statement: which line it gives, and when it is the one on which the first token of the
declaration begins (`headerLine_exact`).
-/
namespace CodeFolding

open PlacedToken

/-! ## Declarations -/

/-- Whether a token is a literal or code, not a blank or a comment. -/
def PlacedToken.isContent (k : PlacedToken) : Bool := k.kind == .literal || k.kind == .code

def codeText (ks : List PlacedToken) : Text :=
  ks.flatMap fun k => if k.kind = .code then k.text else []

/-- A token stands in parentheses that open among the tokens in front of it and close among those
behind it. -/
def InParens (before : List PlacedToken) (k : PlacedToken) (behind : List PlacedToken) : Prop :=
  ∃ front o inside inside' c rest, before = front ++ o :: inside ∧ behind = inside' ++ c :: rest ∧
    o.isCode '(' = true ∧ c.isCode ')' = true ∧
    Text.IsBalanced '(' ')' (codeText (inside ++ k :: inside'))

instance (before : List PlacedToken) (k : PlacedToken) (behind : List PlacedToken) :
    Decidable (InParens before k behind) :=
  decidable_of_iff (∃ i : Fin before.length, ∃ j : Fin behind.length,
      before[i].isCode '(' = true ∧ behind[j].isCode ')' = true ∧
      Text.IsBalanced '(' ')' (codeText (before.drop (i + 1) ++ k :: behind.take j))) <| by
    constructor
    · rintro ⟨i, j, ho, hc, hinside⟩
      refine ⟨before.take i, before[i], before.drop (i + 1), behind.take j, behind[j],
        behind.drop (j + 1), ?_, ?_, ho, hc, hinside⟩
      · rw [Fin.getElem_fin, ← List.drop_eq_getElem_cons, List.take_append_drop]
      · rw [Fin.getElem_fin, ← List.drop_eq_getElem_cons, List.take_append_drop]
    · rintro ⟨front, o, inside, inside', c, rest, rfl, rfl, ho, hc, hinside⟩
      exact ⟨⟨front.length, by simp⟩, ⟨inside'.length, by simp⟩, by simpa using ho,
        by simpa using hc, by simpa using hinside⟩

/-- The tokens `decl` behind `front` are a declaration: they begin behind a brace or semicolon that
stands in no parentheses, or with the file, and each brace or semicolon among them stands in
parentheses of theirs. -/
structure IsDeclaration (front decl : List PlacedToken) : Prop where
  begins : ∀ before k, front = before ++ [k] → k.endsHeader = true ∧ ¬ InParens before k decl
  inside : ∀ before k behind, decl = before ++ k :: behind → k.endsHeader = true →
    InParens before k behind

instance (front decl : List PlacedToken) : Decidable (IsDeclaration front decl) :=
  decidable_of_iff ((∀ i : Fin front.length, i + 1 = front.length →
      front[i].endsHeader = true ∧ ¬ InParens (front.take i) front[i] decl) ∧
    ∀ i : Fin decl.length, decl[i].endsHeader = true →
      InParens (decl.take i) decl[i] (decl.drop (i + 1))) <| by
    constructor
    · rintro ⟨hbegins, hinside⟩
      constructor
      · rintro before k rfl
        simpa using hbegins ⟨before.length, by simp⟩ (by simp)
      · rintro before k behind rfl hk
        simpa using hinside ⟨before.length, by simp⟩ (by simpa using hk)
    · rintro ⟨hbegins, hinside⟩
      constructor
      · intro i hi
        refine hbegins (front.take i) front[i] ?_
        rw [Fin.getElem_fin, List.take_append_getElem, hi, List.take_length]
      · intro i hi
        refine hinside (decl.take i) decl[i] (decl.drop (i + 1)) ?_ hi
        rw [Fin.getElem_fin, ← List.drop_eq_getElem_cons, List.take_append_drop]

/-- The tokens `decl` of a file declare the method: they are the declaration in front of its
brace. -/
def Method.IsDeclaredBy (m : Method) (ks decl : List PlacedToken) : Prop :=
  ∃ front, (ks.takeWhile fun k => k.offset < m.openOffset) = front ++ decl ∧
    IsDeclaration front decl

variable {before behind front decl : List PlacedToken} {k : PlacedToken}

theorem InParens.append (h : InParens before k behind) (front : List PlacedToken) :
    InParens (front ++ before) k behind := by
  obtain ⟨front', o, inside, inside', c, rest, rfl, rfl, ho, hc, hinside⟩ := h
  exact ⟨front ++ front', o, inside, inside', c, rest, by simp, rfl, ho, hc, hinside⟩

/-- Where two tokens stand in the same parentheses, what is between them does not matter. -/
theorem inParens_append_cons {j : PlacedToken} {between inside inside' rest : List PlacedToken}
    {o c : PlacedToken} (ho : o.isCode '(' = true) (hc : c.isCode ')' = true)
    (hinside : Text.IsBalanced '(' ')' (codeText (inside ++ j :: (between ++ k :: inside')))) :
    InParens (front ++ o :: inside) j (between ++ k :: (inside' ++ c :: rest)) :=
  ⟨front, o, inside, between ++ k :: inside', c, rest, rfl, by simp, ho, hc, hinside⟩

theorem endsHeader_of_isCode (h : k.isCode '(' = true) : k.endsHeader = false := by
  obtain ⟨-, htext⟩ := isCode_iff.1 h
  simp [endsHeader, isCode, htext]

/-- The parentheses around a brace or semicolon of a declaration are the declaration's own, since
otherwise the one in front of the declaration would stand in them, too. -/
theorem inParens_of_begins
    (hbegins : ∀ before' j, front = before' ++ [j] → j.endsHeader = true ∧
      ¬ InParens before' j (before ++ k :: behind))
    (h : InParens (front ++ before) k behind) : InParens before k behind := by
  obtain ⟨front', o, inside, inside', c, rest, hsplit, rfl, ho, hc, hinside⟩ := h
  rcases List.append_eq_append_iff.1 hsplit with ⟨u, hfront, hbefore⟩ | ⟨u, hfront, hinner⟩
  · exact ⟨u, o, inside, inside', c, rest, hbefore, rfl, ho, hc, hinside⟩
  · -- the parenthesis opens in front of the declaration
    rcases List.eq_nil_or_concat u with rfl | ⟨u, l, rfl⟩
    · rw [List.append_nil] at hfront
      exact ⟨[], o, inside, inside', c, rest, hinner.symm, rfl, ho, hc, hinside⟩
    · rw [List.concat_eq_append] at hfront hinner
      obtain ⟨hend, hnot⟩ := hbegins (front' ++ u) l (by rw [hfront]; simp)
      cases u with
      | nil =>
        obtain rfl : o = l := (List.cons.inj hinner).1
        rw [endsHeader_of_isCode ho] at hend
        cases hend
      | cons p u =>
        obtain ⟨rfl, rfl⟩ := List.cons.inj hinner
        refine absurd ?_ hnot
        exact inParens_append_cons ho hc (by simpa using hinside)

/-- **In front of a brace there is a declaration.** -/
theorem exists_isDeclaration (ks : List PlacedToken) :
    ∃ front decl, ks = front ++ decl ∧ IsDeclaration front decl := by
  have hsplit : ∀ front decl : List PlacedToken,
      (∀ before k behind, decl = before ++ k :: behind → k.endsHeader = true →
        InParens (front ++ before) k behind) →
      ∃ front' decl', front ++ decl = front' ++ decl' ∧ IsDeclaration front' decl' := by
    intro front
    induction front using List.reverseRecOn with
    | nil => exact fun decl h => ⟨[], decl, rfl, by simp, h⟩
    | append_singleton front l ih =>
      intro decl h
      by_cases hl : l.endsHeader = true ∧ ¬ InParens front l decl
      · have hbegins : ∀ before k, front ++ [l] = before ++ [k] →
            k.endsHeader = true ∧ ¬ InParens before k decl := by
          intro before k heq
          obtain ⟨rfl, hk⟩ := List.append_inj' heq rfl
          obtain rfl := (List.cons.inj hk).1
          exact hl
        refine ⟨front ++ [l], decl, rfl, hbegins, fun before k behind hdecl hk => ?_⟩
        exact inParens_of_begins (hdecl ▸ hbegins) (h before k behind hdecl hk)
      · rw [List.append_assoc, List.singleton_append]
        refine ih (l :: decl) fun before k behind hdecl hk => ?_
        cases before with
        | nil =>
          obtain ⟨rfl, rfl⟩ := List.cons.inj hdecl
          rw [List.append_nil]
          exact not_not.1 fun hnot => hl ⟨hk, hnot⟩
        | cons l' before =>
          obtain ⟨rfl, rfl⟩ := List.cons.inj hdecl
          have hin := h before k behind rfl hk
          rwa [List.append_assoc, List.singleton_append] at hin
  obtain ⟨front, decl, heq, hdecl⟩ := hsplit ks [] fun before k behind h => by simp at h
  exact ⟨front, decl, by rw [← heq, List.append_nil], hdecl⟩

theorem IsDeclaration.not_longer {more : List PlacedToken} (h : IsDeclaration front (more ++ decl))
    (h' : IsDeclaration (front ++ more) decl) : more = [] := by
  rcases List.eq_nil_or_concat more with hnil | ⟨more, l, rfl⟩
  · exact hnil
  · rw [List.concat_eq_append] at h h'
    obtain ⟨hend, hnot⟩ := h'.begins (front ++ more) l (by simp)
    exact absurd ((h.inside more l decl (by simp) hend).append front) hnot

/-- **In front of a brace there is only one declaration.** -/
theorem IsDeclaration.unique {front' decl' : List PlacedToken} (h : IsDeclaration front decl)
    (h' : IsDeclaration front' decl') (heq : front ++ decl = front' ++ decl') : decl = decl' := by
  rcases List.append_eq_append_iff.1 heq with ⟨u, rfl, rfl⟩ | ⟨u, rfl, rfl⟩
  · rw [h.not_longer h', List.nil_append]
  · rw [h'.not_longer h, List.nil_append]

/-! ## The line of a header -/

/-- The tokens behind the last one at which a header ends. -/
def behindLastEnd (ks : List PlacedToken) : List PlacedToken := ks.rtakeWhile fun k => !k.endsHeader

theorem headerBehind_eq (ks : List PlacedToken) :
    headerBehind ks = (behindLastEnd ks).foldl HeaderText.read {} := rfl

/-- What a header ends with in front of a declaration is not part of the header. -/
theorem IsDeclaration.behindLastEnd_append (h : IsDeclaration front decl) :
    behindLastEnd (front ++ decl) = behindLastEnd decl := by
  have hfront : front.reverse.takeWhile (fun k => !k.endsHeader) = [] := by
    rcases List.eq_nil_or_concat front with rfl | ⟨before, l, rfl⟩
    · rfl
    · have hend := (h.begins before l (List.concat_eq_append)).1
      simp [hend]
  rw [behindLastEnd, behindLastEnd, List.rtakeWhile, List.rtakeWhile, List.reverse_append,
    List.takeWhile_append, hfront, List.append_nil]
  split
  · next hall => rw [(List.takeWhile_prefix _).eq_of_length hall]
  · rfl

theorem behindLastEnd_of_forall_not (h : ∀ k ∈ decl, k.endsHeader = false) :
    behindLastEnd decl = decl :=
  List.rtakeWhile_eq_self_iff.2 fun k hk => by simp [h k hk]

/-- A header has a line once it has a literal or code, and the line is the one on which that
literal or code ends. -/
theorem line_read_of_code (h : HeaderText) (hcode : k.kind = .code → k.endLine = k.line) :
    (h.read k).line = if k.isContent then h.line <|> some k.endLine else h.line := by
  rw [HeaderText.line_read_eq]
  split
  · next hkind => simp [isContent, hkind]
  · next hkind => simp [isContent, hkind, hcode hkind]
  · next hliteral hcode' =>
    have hnot : k.isContent = false := by simpa [isContent] using ⟨hliteral, hcode'⟩
    rw [hnot, if_neg Bool.false_ne_true]

theorem line_foldl_read {ks : List PlacedToken}
    (hcode : ∀ k ∈ ks, k.kind = .code → k.endLine = k.line) (h : HeaderText) :
    (ks.foldl HeaderText.read h).line = (h.line <|> (ks.find? isContent).map endLine) := by
  induction ks generalizing h with
  | nil => simp
  | cons k ks ih =>
    rw [List.foldl_cons, ih fun j hj => hcode j (List.mem_cons_of_mem k hj),
      line_read_of_code h (hcode k List.mem_cons_self)]
    cases hk : k.isContent with
    | true => cases h.line <;> simp [hk]
    | false => simp [hk]

theorem foldl_read_of_forall_not {ks : List PlacedToken} (h : ∀ k ∈ ks, k.isContent = false) :
    ks.foldl HeaderText.read {} = {} := by
  induction ks with
  | nil => rfl
  | cons k ks ih =>
    have hread : HeaderText.read {} k = {} := by
      have hk := h k List.mem_cons_self
      cases hkind : k.kind <;> simp_all [HeaderText.read, isContent, HeaderText.addBlank]
    rw [List.foldl_cons, hread]
    exact ih fun j hj => h j (List.mem_cons_of_mem k hj)

/-! ## The line of a declaration -/

namespace Language

variable {lang : Language} {t : Text}

theorem endLine_of_code (h : k ∈ lang.placed t) (hkind : k.kind = .code) : k.endLine = k.line := by
  obtain ⟨ks, ls, hsplit⟩ := List.append_of_mem h
  have hbegins := beginsWith_of_append (tokens_of_placed hsplit)
  rw [hkind] at hbegins
  obtain ⟨c, hc, htext⟩ : ∃ c, isBlank c = false ∧ k.text = [c] := by
    generalize hrest : k.text ++ (ls.map toToken).flatMap Token.text = rest at hbegins
    generalize hlength : k.text.length = n at hbegins
    cases hbegins with
    | @code c rest hink =>
      obtain ⟨d, hd⟩ := List.length_eq_one_iff.1 hlength
      rw [hd] at hrest
      exact ⟨c, hink, by rw [hd, (List.cons.inj hrest).1]⟩
  rw [endLine, htext, Text.newlines_eq_zero_iff.2 (by simpa using (ne_feed_of_isBlank hc).symm),
    Nat.add_zero]

theorem line_le_of_find? {ks : List PlacedToken} {first k : PlacedToken}
    (hks : ks.Sublist (lang.placed t)) (hfirst : ks.find? isContent = some first) (hk : k ∈ ks)
    (hcontent : k.isContent = true) : first.line ≤ k.line := by
  obtain ⟨-, skipped, rest, rfl, hskipped⟩ := List.find?_eq_some_iff_append.1 hfirst
  rcases List.mem_append.1 hk with hk | hk
  · have := hskipped k hk
    simp [hcontent] at this
  rcases List.mem_cons.1 hk with rfl | hrest
  · exact Nat.le_refl _
  have hpair := (pairwise_offset_placed lang t).sublist hks
  have hlt := (List.pairwise_cons.1 (List.pairwise_append.1 hpair).2.1).1 k hrest
  have hle := endLine_le_of_offset_lt (hks.subset (by simp)) (hks.subset (by simp [hrest])) hlt
  exact Nat.le_trans (Nat.le_add_right _ _) hle

end Language

/-- The header of a method is read behind the last brace or semicolon of its declaration. There is a
literal or code, since there is a name, and the first one gives the line. -/
theorem Method.IsMadeOf.exists_head {m : Method} {ks : List PlacedToken}
    {p : PlacedToken × PlacedToken} (hp : m.IsMadeOf ks p) (hdecl : IsDeclaration front decl)
    (hsplit : (ks.takeWhile fun k => k.offset < m.openOffset) = front ++ decl)
    (hcode : ∀ k ∈ decl, k.kind = .code → k.endLine = k.line) :
    ∃ head, (behindLastEnd decl).find? isContent = some head ∧ m.headerLine = head.endLine := by
  obtain ⟨hoffset, -⟩ := Prod.mk.inj hp.span_eq
  have hheader : headerBefore ks p.1 = (behindLastEnd decl).foldl HeaderText.read {} := by
    rw [headerBefore, ← hoffset, hsplit, headerBehind_eq, hdecl.behindLastEnd_append]
  obtain ⟨head, hhead⟩ : ∃ head, (behindLastEnd decl).find? isContent = some head := by
    refine Option.ne_none_iff_exists'.1 fun hnone => ?_
    have hempty := foldl_read_of_forall_not fun k hk => by
      simpa using List.find?_eq_none.1 hnone k hk
    have hname := hp.name_eq
    rw [hheader, hempty] at hname
    cases hname
  have hcode' : ∀ k ∈ behindLastEnd decl, k.kind = .code → k.endLine = k.line :=
    fun k hk => hcode k ((List.rtakeWhile_suffix _ _).subset hk)
  refine ⟨head, hhead, ?_⟩
  rw [hp.headerLine_eq, hheader, line_foldl_read hcode', hhead]
  rfl

/-- **The line a declaration is given.** In front of the brace of a method there is one declaration.
The method is given the line on which the first literal or code behind the last brace or semicolon
ends. This is never further up than the line on which the first token of the declaration begins, and
it is this line just if that literal or code begins on it and spans no lines. If no brace or
semicolon stands in parentheses of the declaration, it is the first token itself. -/
theorem headerLine_exact (t : Text) (ext : String) :
    let lang := Language.ofExtension ext
    ∀ m ∈ (Survey.ofText lang t).methods, ∃ decl first head,
      (∀ other, m.IsDeclaredBy (lang.placed t) other ↔ other = decl) ∧
      decl.find? isContent = some first ∧ (behindLastEnd decl).find? isContent = some head ∧
      m.headerLine = head.endLine ∧ first.line ≤ m.headerLine ∧
      (m.headerLine = first.line ↔ head.line = first.line ∧ '\n' ∉ head.text) ∧
      ((∀ k ∈ decl, k.endsHeader = false) → head = first) := by
  intro lang m hm
  obtain ⟨-, p, hp⟩ := Survey.exists_pair_of_mem_methods hm
  obtain ⟨front, decl, hsplit, hdecl⟩ :=
    exists_isDeclaration ((lang.placed t).takeWhile fun k => k.offset < m.openOffset)
  have hsub : decl.Sublist (lang.placed t) :=
    (List.sublist_append_right front decl).trans (hsplit ▸ List.takeWhile_sublist _)
  obtain ⟨head, hhead, hline⟩ := hp.exists_head hdecl hsplit fun k hk =>
    Language.endLine_of_code (hsub.subset hk)
  have hmem : head ∈ decl := (List.rtakeWhile_suffix _ _).subset (List.mem_of_find?_eq_some hhead)
  obtain ⟨first, hfirst⟩ : ∃ first, decl.find? isContent = some first :=
    Option.isSome_iff_exists.1 (List.find?_isSome.2 ⟨head, hmem, List.find?_some hhead⟩)
  have hle : first.line ≤ head.line :=
    Language.line_le_of_find? hsub hfirst hmem (List.find?_some hhead)
  refine ⟨decl, first, head, fun other => ⟨?_, ?_⟩, hfirst, hhead, hline, ?_, ?_, ?_⟩
  · rintro ⟨front', hsplit', hother⟩
    exact hother.unique hdecl (hsplit'.symm.trans hsplit)
  · rintro rfl
    exact ⟨front, hsplit, hdecl⟩
  · rw [hline]
    exact Nat.le_trans hle (Nat.le_add_right _ _)
  · rw [hline, endLine, ← Text.newlines_eq_zero_iff]
    omega
  · intro hplain
    rw [behindLastEnd_of_forall_not hplain, hfirst] at hhead
    exact (Option.some.inj hhead).symm

/-- A brace in an annotation of one line leaves the line as it is. -/
theorem headerLine_exact_of_annotation :
    let lang := Language.ofExtension "java"
    let t : Text := "class C \x7b\n@A(\x7b1\x7d) void f() \x7b\n\x7d\n\x7d\n".toList
    let m : Method := ⟨"f".toList, 1, 1, 2, 27, 29, []⟩
    m ∈ (Survey.ofText lang t).methods ∧ ∃ decl first head,
      m.IsDeclaredBy (lang.placed t) decl ∧ codeText decl = "@A(\x7b1\x7d)voidf()".toList ∧
      decl.find? isContent = some first ∧ (behindLastEnd decl).find? isContent = some head ∧
      first.text = "@".toList ∧ head.text = ")".toList ∧ m.headerLine = first.line := by
  intro lang t m
  have hm : m ∈ (Survey.ofText lang t).methods := by decide +kernel
  obtain ⟨decl, first, head, hdecl, hfirst, hhead, -, -, hline, -⟩ := headerLine_exact t "java" m hm
  let front := (lang.placed t).takeWhile fun k => k.offset < 9
  let decl' := (lang.placed t).filter fun k => 9 ≤ k.offset ∧ k.offset < 27
  have hfront : m.IsDeclaredBy (lang.placed t) decl' :=
    ⟨front, by decide +kernel, by decide +kernel⟩
  obtain rfl : decl' = decl := (hdecl decl').1 hfront
  obtain rfl : PlacedToken.mk ⟨.code, "@".toList⟩ 10 1 = first :=
    Option.some.inj (Eq.trans (by decide +kernel) hfirst)
  obtain rfl : PlacedToken.mk ⟨.code, ")".toList⟩ 16 1 = head :=
    Option.some.inj (Eq.trans (by decide +kernel) hhead)
  exact ⟨hm, decl', _, _, hfront, by decide +kernel, hfirst, hhead, rfl, rfl,
    hline.2 ⟨rfl, by decide⟩⟩

/-- A brace in an annotation of several lines puts the line further down, and so does a literal of
several lines. -/
theorem headerLine_below_first :
    let annotation : Text := "@A(\x7b\n\"x\"\n\x7d)\nvoid f() \x7b\n\x7d\n".toList
    let literal : Text := "`a\nb`\nfunction f() \x7b\n\x7d\n".toList
    ∀ s ∈ [("java", annotation), ("js", literal)],
      let lang := Language.ofExtension s.1
      lang = .braces ∧ ∃ m ∈ (Survey.ofText lang s.2).methods, ∃ decl first,
        m.IsDeclaredBy (lang.placed s.2) decl ∧ decl.find? isContent = some first ∧
        first.line < m.headerLine := by
  intro annotation literal s hs
  rcases List.mem_pair.1 hs with rfl | rfl
  · refine ⟨rfl, ⟨"f".toList, 2, 3, 4, 21, 23, []⟩, by decide +kernel,
      (Language.braces.placed annotation).takeWhile fun k => k.offset < 21,
      ⟨⟨.code, "@".toList⟩, 0, 0⟩, ⟨[], rfl, ?_⟩, ?_, by decide⟩ <;> decide +kernel
  · refine ⟨rfl, ⟨"f".toList, 1, 2, 3, 19, 21, []⟩, by decide +kernel,
      (Language.braces.placed literal).takeWhile fun k => k.offset < 19,
      ⟨⟨.literal, "`a\nb`".toList⟩, 0, 0⟩, ⟨[], rfl, ?_⟩, ?_, by decide⟩ <;> decide +kernel

end CodeFolding
