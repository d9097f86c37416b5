import CodeFolding.Proofs.Header.Front
import CodeFolding.Proofs.Scanner.Stop
import CodeFolding.Proofs.Text.Bytes
/-!
# Headers by byte offsets

The scanner recognises the header of a method by slices of it: at a parenthesis that a search
through the bytes finds, behind an annotation, in front of a type-parameter clause and in front of
the last word. Main statement: on every header all slices are taken and no counter falls below
zero, and the name found is that of the header (`sliceMethod?_eq`).
-/
namespace CodeFolding

/-- A difference that is not cut off at zero. -/
def Fault.minus (m n : Nat) : Except Fault Nat := if n ≤ m then .ok (m - n) else .error .underflow

/-! ## Closing brackets -/

/-- The place of the bracket that closes the innermost of `depth` open ones. -/
def closingPlace {α : Type} [DecidableEq α] (opening closing : α) :
    Nat → List (α × Nat) → Except Fault (Option Nat)
  | _, [] => .ok none
  | depth, (x, n) :: rest =>
    if x = opening then closingPlace opening closing (depth + 1) rest
    else if x = closing then do
      let depth ← Fault.minus depth 1
      if depth = 0 then return some n else closingPlace opening closing depth rest
    else closingPlace opening closing depth rest

theorem closingPlace_append {α : Type} [DecidableEq α] {opening closing : α} {depth : Nat}
    {front rest : List (α × Nat)} (h : ∀ p ∈ front, p.1 ≠ opening ∧ p.1 ≠ closing) :
    closingPlace opening closing depth (front ++ rest) =
      closingPlace opening closing depth rest := by
  induction front with
  | nil => rfl
  | cons p front ih =>
    obtain ⟨hopen, hclose⟩ := h p List.mem_cons_self
    rw [List.cons_append, closingPlace, if_neg hopen, if_neg hclose]
    exact ih fun q hq => h q (List.mem_cons_of_mem _ hq)

/-- **While a bracket is open no count falls below zero, and the place found is in front of the
text behind the closing bracket.** -/
theorem closingPlace_cases (opening closing : Char) (depth : Nat) (l : List (Char × Nat)) :
    (Text.behindClosing opening closing (depth + 1) (l.map Prod.fst) = none ∧
      closingPlace opening closing (depth + 1) l = .ok none) ∨
    ∃ front n behind, l = front ++ (closing, n) :: behind ∧
      Text.behindClosing opening closing (depth + 1) (l.map Prod.fst) =
        some (behind.map Prod.fst) ∧
      closingPlace opening closing (depth + 1) l = .ok (some n) := by
  induction l generalizing depth with
  | nil => exact Or.inl ⟨rfl, rfl⟩
  | cons p l ih =>
    obtain ⟨c, n⟩ := p
    have hnext : ∀ depth',
        (Text.behindClosing opening closing (depth' + 1) (l.map Prod.fst) = none ∧
          closingPlace opening closing (depth' + 1) l = .ok none) ∨
        ∃ front k behind, (c, n) :: l = front ++ (closing, k) :: behind ∧
          Text.behindClosing opening closing (depth' + 1) (l.map Prod.fst) =
            some (behind.map Prod.fst) ∧
          closingPlace opening closing (depth' + 1) l = .ok (some k) := fun depth' =>
      (ih depth').imp_right fun ⟨front, k, behind, hl, hbehind, hplace⟩ =>
        ⟨(c, n) :: front, k, behind, by rw [hl]; rfl, hbehind, hplace⟩
    rw [List.map_cons, closingPlace]
    unfold Text.behindClosing
    by_cases hopen : c = opening
    · rw [if_pos hopen, if_pos hopen]
      exact hnext (depth + 1)
    · rw [if_neg hopen, if_neg hopen]
      by_cases hclose : c = closing
      · rw [if_pos hclose, if_pos hclose, Fault.minus, if_pos (Nat.le_add_left 1 depth),
          Fault.ok_bind, Nat.add_sub_cancel]
        cases depth with
        | zero => exact Or.inr ⟨[], n, l, by rw [hclose]; rfl, rfl, rfl⟩
        | succ depth => exact hnext depth
      · rw [if_neg hclose, if_neg hclose]
        exact hnext depth

namespace Text

theorem split_of_indexedFrom {m n : Nat} {t : Text} {front behind : List (Char × Nat)} {c : Char}
    (h : indexedFrom m t = front ++ (c, n) :: behind) :
    t = front.map Prod.fst ++ c :: behind.map Prod.fst ∧ n = m + size (front.map Prod.fst) := by
  have ht := congrArg (List.map Prod.fst) h
  rw [map_fst_indexedFrom, List.map_append, List.map_cons] at ht
  refine ⟨ht, ?_⟩
  have hlt : front.length < (indexedFrom m t).length := by
    rw [h, List.length_append, List.length_cons]
    omega
  have hn := snd_indexedFrom hlt
  simp only [h, List.getElem_append_right (Nat.le_refl _), Nat.sub_self,
    List.getElem_cons_zero] at hn
  have hlength : front.length = (front.map Prod.fst).length := by simp
  rw [hn, ht, hlength, List.take_left]

/-! ## Parentheses among bytes -/

def closingParen? (t : Text) (first : Nat) : Except Fault (Option Nat) :=
  closingPlace '('.toUInt8 ')'.toUInt8 0 (t.bytes.zipIdx.drop first)

/-- **Brackets are found among the bytes as among the characters.** -/
theorem closingPlace_bytes (depth n : Nat) (t : Text) :
    closingPlace '('.toUInt8 ')'.toUInt8 depth (t.bytes.zipIdx n) =
      closingPlace '(' ')' depth (indexedFrom n t) := by
  induction t generalizing depth n with
  | nil => rfl
  | cons c t ih =>
    have hfront : bytes (c :: t) = String.utf8EncodeChar c ++ bytes t := List.flatMap_cons
    rw [hfront, List.zipIdx_append, String.length_utf8EncodeChar, indexedFrom, closingPlace]
    rcases utf8EncodeChar_cases c with ⟨hone, hsize, hlt⟩ | hlong
    · have hopen : '('.toNat < 128 := by decide
      have hclose : ')'.toNat < 128 := by decide
      rw [hone, hsize, List.zipIdx_singleton, List.singleton_append, closingPlace]
      simp only [ih, toUInt8_inj hlt hopen, toUInt8_inj hlt hclose]
    · obtain ⟨hopen, hopening⟩ := hlong '(' (by decide)
      obtain ⟨hclose, hclosing⟩ := hlong ')' (by decide)
      rw [closingPlace_append, if_neg hopen, if_neg hclose, ih]
      intro p hp
      have hmem : p.1 ∈ String.utf8EncodeChar c := List.fst_mem_of_mem_zipIdx hp
      exact ⟨ne_of_mem_of_not_mem hmem hopening, ne_of_mem_of_not_mem hmem hclosing⟩

theorem closingParen?_append (front rest : Text) :
    closingParen? (front ++ rest) (size front) =
      closingPlace '('.toUInt8 ')'.toUInt8 0 (rest.bytes.zipIdx (size front)) := by
  have hfront : (bytes front).zipIdx.length = size front := by
    rw [List.length_zipIdx, length_bytes]
  rw [closingParen?, bytes_append, List.zipIdx_append, length_bytes, Nat.zero_add,
    List.drop_left' hfront]

def sliceBehindParens (t : Text) (first : Nat) : Except Fault (Option Text) := do
  match ← t.closingParen? first with
  | some stop => return some (← t.sliceFrom (stop + 1))
  | none => return none

/-- **The closing parenthesis is found without a fault, and a slice begins behind it.** -/
theorem sliceBehindParens_append (front : Text) {parens : Text} (h : parens.head? = some '(') :
    sliceBehindParens (front ++ parens) (size front) = .ok (Header.behindParens parens) := by
  obtain ⟨more, rfl⟩ := List.head?_eq_some_iff.1 h
  have hplace : closingParen? (front ++ '(' :: more) (size front) =
      closingPlace '(' ')' 1 (indexedFrom (size front + 1) more) := by
    rw [closingParen?_append, closingPlace_bytes]
    rfl
  have hparens : Header.behindParens ('(' :: more) = behindClosing '(' ')' 1 more := rfl
  rw [sliceBehindParens, hplace, hparens]
  rcases closingPlace_cases '(' ')' 0 (indexedFrom (size front + 1) more) with
    ⟨hnone, hok⟩ | ⟨inner, n, behind, hsplit, hsome, hok⟩
  · rw [map_fst_indexedFrom] at hnone
    rw [hok, hnone]
    rfl
  · rw [map_fst_indexedFrom] at hsome
    obtain ⟨hmore, hn⟩ := split_of_indexedFrom hsplit
    have hslice : sliceFrom (front ++ '(' :: more) (n + 1) = .ok (behind.map Prod.fst) := by
      have hfront : front ++ '(' :: more =
          (front ++ '(' :: (inner.map Prod.fst ++ [')'])) ++ behind.map Prod.fst := by
        rw [hmore]
        simp
      have hsize : n + 1 = size (front ++ '(' :: (inner.map Prod.fst ++ [')'])) := by
        simp only [hn, size_append, size_cons, size_nil, show '('.utf8Size = 1 from rfl,
          show ')'.utf8Size = 1 from rfl]
        omega
      rw [hfront, hsize, sliceFrom_append]
    rw [hok, hsome, Fault.ok_bind]
    simp only [hslice, Fault.ok_bind]
    rfl

end Text

open Text

namespace Header

/-! ## Annotations -/

/-- The text behind the first annotation, without blanks in front, given what follows the `@`. -/
def sliceBehindDecorator (t : Text) : Except Fault Text := do
  let stop := (findChar? (fun c => !(isWordChar c || c == '.')) t).getD (size t)
  let behind := trimStart (← sliceFrom t stop)
  if ['('].isPrefixOf behind then
    match ← sliceBehindParens behind 0 with
    | some tail => return trimStart tail
    | none => return []
  else return behind

def sliceAnnotations : (fuel : Nat) → Text → Except Fault Text
  | _, [] => .ok []
  | fuel, c :: rest =>
    if c = '@' then
      match fuel with
      | 0 => .error .endless
      | fuel + 1 => do sliceAnnotations fuel (← sliceBehindDecorator rest)
    else .ok (c :: rest)

theorem sliceFrom_findChar? (p : Char → Bool) (t : Text) :
    sliceFrom t ((findChar? p t).getD (size t)) = .ok (t.dropWhile (!p ·)) := by
  have hslice := sliceFrom_append (t.takeWhile (!p ·)) (t.dropWhile (!p ·))
  rwa [List.takeWhile_append_dropWhile, ← getD_findChar?] at hslice

theorem sliceBehindDecorator_eq (t : Text) :
    sliceBehindDecorator t = .ok (behindDecorator t) := by
  rw [sliceBehindDecorator, sliceFrom_findChar?, Fault.ok_bind]
  simp only [Bool.not_not]
  rw [behindDecorator]
  split
  · next hparen =>
    obtain ⟨more, hmore⟩ := List.isPrefixOf_iff_prefix.1 hparen
    have hparens := sliceBehindParens_append [] (List.head?_eq_some_iff.2 ⟨more, hmore.symm⟩)
    rw [List.nil_append, size_nil] at hparens
    rw [hparens, Fault.ok_bind]
    cases behindParens (trimStart (t.dropWhile fun c => isWordChar c || c == '.')) <;> rfl
  · rfl

/-- **There are fewer annotations than characters, and all of them are cut off without a fault.** -/
theorem sliceAnnotations_eq {fuel : Nat} {t : Text} (h : t.length ≤ fuel) :
    sliceAnnotations fuel t = .ok (dropAnnotationsFuel fuel t) := by
  induction fuel generalizing t with
  | zero =>
    obtain rfl := List.length_eq_zero_iff.1 (Nat.le_zero.1 h)
    rfl
  | succ fuel ih =>
    cases t with
    | nil => rfl
    | cons c rest =>
      have hle := (behindDecorator_suffix rest).length_le
      rw [List.length_cons] at h
      rw [sliceAnnotations, dropAnnotationsFuel]
      split
      · rw [sliceBehindDecorator_eq, Fault.ok_bind, ih (by omega)]
      · rfl

/-! ## Names -/

def sliceTypeParameters (t : Text) : Except Fault Text := do
  if ['>'].isPrefixOf t.reverse then
    match ← closingPlace '>' '<' 0 (indexed t).reverse with
    | some stop => return trimEnd (← sliceTo t stop)
    | none => return t
  else return t

/-- **The bracket that opens a clause is found from its end, without a fault.** -/
theorem sliceTypeParameters_eq (t : Text) :
    sliceTypeParameters t = .ok (dropTypeParameters t) := by
  rw [sliceTypeParameters, dropTypeParameters]
  split
  · next hend =>
    have hfst : t.reverse = (indexed t).reverse.map Prod.fst := by
      rw [List.map_reverse, indexed, map_fst_indexedFrom]
    obtain ⟨more, hmore⟩ := List.isPrefixOf_iff_prefix.1 hend
    rw [List.singleton_append, hfst] at hmore
    obtain ⟨⟨c, k⟩, pairs, hpairs, rfl, -⟩ := List.map_eq_cons_iff.1 hmore.symm
    have hplace : closingPlace '>' '<' 0 (('>', k) :: pairs) = closingPlace '>' '<' 1 pairs := rfl
    have hbehind : behindClosing '>' '<' 0 ((('>', k) :: pairs).map Prod.fst) =
        behindClosing '>' '<' 1 (pairs.map Prod.fst) := rfl
    rw [hfst, hpairs, hplace, hbehind]
    rcases closingPlace_cases '>' '<' 0 pairs with ⟨hnone, hok⟩ | ⟨inner, n, front, rfl, hsome, hok⟩
    · rw [hnone, hok]
      rfl
    · have hindexed : indexedFrom 0 t =
          front.reverse ++ ('<', n) :: (inner.reverse ++ [('>', k)]) := by
        rw [← List.reverse_reverse (indexedFrom 0 t), ← indexed, hpairs]
        simp
      obtain ⟨ht, hn⟩ := split_of_indexedFrom hindexed
      have hslice : sliceTo t n = .ok (front.reverse.map Prod.fst) := by
        rw [hn, Nat.zero_add, ht, sliceTo_append]
      rw [hsome, hok, Fault.ok_bind]
      simp only [hslice, Fault.ok_bind, List.map_reverse]
      rfl
  · rfl

/-- The name of a method that a word such as `func` introduces, where the name does not follow the
word. The first parenthesis is at the given offset. -/
def sliceIntroducedName? (h : Text) (paren : Nat) : Except Fault (Option Text) := do
  match ← sliceBehindParens h paren with
  | some behind =>
    let name := firstWord (trimStart behind)
    return if name.isEmpty then none else some name
  | none => return none

def sliceBeforeLastWord (t : Text) : Except Fault Text := do
  sliceTo t (← Fault.minus (size t) (size (lastWord t)))

/-- The name of a method declared without an introducing word. The first parenthesis of the header
`h` is at the given offset, and `front` is what stands in front of it. -/
def sliceDeclaredName? (h front : Text) (paren : Nat) : Except Fault (Option Text) := do
  let front ← sliceTypeParameters front
  let name := lastWord front
  if name.isEmpty || controlWords.contains name || name.head?.any Char.isDigit then return none
  let before := trimEnd (← sliceBeforeLastWord front)
  if before.getLast? == some '.' || (words before).contains "new".toList then return none
  match ← sliceBehindParens h paren with
  | some behind =>
    let tail := trim behind
    return if tail.isEmpty || signatureEnds.any (·.isPrefixOf tail) then some name else none
  | none => return none

/-- The name of the method that a header declares, by slices of the header. -/
def sliceMethod? (header : Text) : Except Fault (Option Text) := do
  let h ← sliceAnnotations (trim header).length (trim header)
  match findChar? (· == '(') h with
  | none => return none
  | some paren =>
    let front := trimEnd (← sliceTo h paren)
    if (words front).any typeWords.contains then return none
    match (words front).dropWhile fun w => !functionWords.contains w with
    | _ :: name :: _ => return some name
    | [_] => sliceIntroducedName? h paren
    | [] =>
      if holds ['-', '>'] h || front.contains '=' then return none
      sliceDeclaredName? h front paren

theorem sliceIntroducedName?_append (front : Text) {parens : Text}
    (h : parens.head? = some '(') :
    sliceIntroducedName? (front ++ parens) (size front) = .ok (introducedName? [] parens) := by
  rw [sliceIntroducedName?, sliceBehindParens_append front h, introducedName?, Fault.ok_bind]
  cases behindParens parens with
  | none => rfl
  | some behind =>
    show Except.ok _ = Except.ok _
    simp only [Option.bind_eq_bind, Option.bind_some]

theorem sliceBeforeLastWord_eq (t : Text) : sliceBeforeLastWord t = .ok (beforeLastWord t) := by
  have hsplit := beforeLastWord_append_lastWord t
  have hsize : size t = size (beforeLastWord t) + size (lastWord t) := by
    rw [← size_append, hsplit]
  have hslice := sliceTo_append (beforeLastWord t) (lastWord t)
  rw [hsplit] at hslice
  rw [sliceBeforeLastWord, Fault.minus, if_pos (by omega), Fault.ok_bind, hsize,
    Nat.add_sub_cancel, hslice]

theorem sliceDeclaredName?_append (front before : Text) {parens : Text}
    (h : parens.head? = some '(') :
    sliceDeclaredName? (front ++ parens) before (size front) =
      .ok (declaredName? before parens) := by
  rw [sliceDeclaredName?, sliceTypeParameters_eq, sliceBehindParens_append front h,
    Fault.ok_bind, declaredName?]
  generalize dropTypeParameters before = clause
  rw [sliceBeforeLastWord_eq]
  dsimp only
  split
  · rfl
  · rw [Fault.ok_bind]
    split
    · rfl
    · cases behindParens parens <;> rfl

/-- **Every header is recognised without a fault.** -/
theorem sliceMethod?_eq (header : Text) : sliceMethod? header = .ok (method? header) := by
  rw [sliceMethod?, sliceAnnotations_eq (Nat.le_refl _), Fault.ok_bind, method?, dropAnnotations]
  generalize dropAnnotationsFuel (trim header).length (trim header) = h
  have hfind : findChar? (· == '(') h = if (h.dropWhile (· != '(')).isEmpty then none
      else some (size (h.takeWhile (· != '('))) := findChar?_eq _ h
  by_cases hparens : (h.dropWhile (· != '(')).isEmpty = true
  · rw [hfind, if_pos hparens, if_pos hparens]
    rfl
  · rw [hfind, if_neg hparens, if_neg hparens]
    have hsplit := List.takeWhile_append_dropWhile (p := (· != '(')) (l := h)
    have hhead : (h.dropWhile (· != '(')).head? = some '(' :=
      (dropWhile_eq_nil_or_head? '(' h).resolve_left (mt List.isEmpty_iff.2 hparens)
    have hslice := sliceTo_append (h.takeWhile (· != '(')) (h.dropWhile (· != '('))
    have hintroduced := sliceIntroducedName?_append (h.takeWhile (· != '(')) hhead
    have hdeclared := fun before =>
      sliceDeclaredName?_append (h.takeWhile (· != '(')) before hhead
    rw [hsplit] at hslice hintroduced hdeclared
    dsimp only
    rw [hslice, Fault.ok_bind]
    split
    · rfl
    · generalize (words (trimEnd (h.takeWhile (· != '(')))).dropWhile
        (fun w => !functionWords.contains w) = introduced
      rcases introduced with - | ⟨w, - | ⟨name, more⟩⟩
      · dsimp only
        split
        · rfl
        · exact hdeclared _
      · exact hintroduced
      · rfl

end Header

end CodeFolding
