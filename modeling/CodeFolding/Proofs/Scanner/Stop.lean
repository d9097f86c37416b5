import CodeFolding.Proofs.Scanner.Slice
/-!
# Where literals end, in bytes

The scanner over bytes finds the end of a literal by the offsets of its characters. Main statement:
it ends where its length in characters says (`literalStop?_append`), so its end is an offset at
which the text splits.
-/
namespace CodeFolding

open Text

/-- Reads the rest of a quoted literal in a text of `whole` bytes, given the characters with their
offsets. -/
def quotedStopFrom (quote : Char) (multiline : Bool) (whole : Nat) :
    (escaped : Bool) → List (Char × Nat) → Nat
  | _, [] => whole
  | true, _ :: rest => quotedStopFrom quote multiline whole false rest
  | false, (c, n) :: rest =>
    if c = '\\' then quotedStopFrom quote multiline whole true rest
    else if c = quote then n + c.utf8Size
    else if c = '\n' && !multiline then n
    else quotedStopFrom quote multiline whole false rest

def quotedStop (quote : Char) (multiline : Bool) (t : Text) : Nat :=
  quotedStopFrom quote multiline (size t) false ((indexed t).drop 1)

def charStop? (t : Text) : Option Nat :=
  match (indexed t).drop 1 with
  | [] => none
  | (c, _) :: rest =>
    if c = '\n' || c = '\'' then none
    else if c = '\\' then
      ((((rest.take escapeWindow).takeWhile (·.1 != '\n')).drop 1).find?
        (·.1 == '\'')).map (·.2 + 1)
    else (rest.head?.filter (·.1 == '\'')).map (·.2 + 1)

theorem exists_split_quotedStopFrom (quote : Char) (multiline escaped : Bool) (t : Text)
    (n m : Nat) :
    ∃ a b, t = a ++ b ∧ quotedFrom quote multiline escaped t n = n + a.length ∧
      quotedStopFrom quote multiline (m + size t) escaped (indexedFrom m t) = m + size a := by
  induction t generalizing escaped n m with
  | nil => exact ⟨[], [], rfl, by cases escaped <;> rfl, by cases escaped <;> rfl⟩
  | cons c rest ih =>
    have hnext : ∀ escaped', ∃ a b, c :: rest = a ++ b ∧
        quotedFrom quote multiline escaped' rest (n + 1) = n + a.length ∧
        quotedStopFrom quote multiline (m + size (c :: rest)) escaped'
          (indexedFrom (m + c.utf8Size) rest) = m + size a := by
      intro escaped'
      obtain ⟨a, b, rfl, hlength, hstop⟩ := ih escaped' (n + 1) (m + c.utf8Size)
      rw [Nat.add_assoc, ← size_cons] at hstop
      refine ⟨c :: a, b, rfl, ?_, ?_⟩
      · rw [hlength, List.length_cons]
        omega
      · rw [hstop, size_cons, Nat.add_assoc]
    cases escaped with
    | true => exact hnext false
    | false =>
      rw [quotedFrom, indexedFrom, quotedStopFrom]
      split
      · exact hnext true
      · split
        · exact ⟨[c], rest, rfl, rfl, by simp⟩
        · split
          · exact ⟨[], c :: rest, rfl, rfl, rfl⟩
          · exact hnext false

/-- **A quoted literal ends where its length says.** -/
theorem quotedStop_cons (quote : Char) (multiline : Bool) (c : Char) (rest : Text) :
    quotedStop quote multiline (c :: rest) =
      size ((c :: rest).take (quotedLength quote multiline (c :: rest))) := by
  obtain ⟨a, b, rfl, hlength, hstop⟩ :=
    exists_split_quotedStopFrom quote multiline false rest 1 c.utf8Size
  rw [← size_cons] at hstop
  rw [quotedStop, indexed, indexedFrom, quotedLength, List.drop_succ_cons, List.drop_succ_cons,
    List.drop_zero, List.drop_zero, Nat.zero_add, hstop, hlength, Nat.add_comm 1,
    List.take_succ_cons, List.take_left, size_cons]

/-! ## Character literals -/

/-- The closing quote behind a backslash, looked for among the characters with their offsets. -/
theorem find?_window (m : Nat) (t : Text) :
    ((((indexedFrom m t).take escapeWindow).takeWhile (·.1 != '\n')).drop 1).find?
        (·.1 == '\'') =
      ((((t.take escapeWindow).takeWhile (· != '\n')).drop 1).findIdx? (· == '\'')).map
        fun j => ('\'', m + size (t.take (j + 1))) := by
  have hidx : (((t.take escapeWindow).takeWhile (· != '\n')).drop 1).findIdx? (· == '\'') =
      ((((indexedFrom m t).take escapeWindow).takeWhile (·.1 != '\n')).drop 1).findIdx?
        (·.1 == '\'') := by
    conv => lhs; rw [← map_fst_indexedFrom m t]
    rw [← List.map_take, List.takeWhile_map, ← List.map_drop, List.findIdx?_map]
    rfl
  rw [hidx, List.find?_eq_bind_findIdx?_getElem?]
  have hprefix : ((indexedFrom m t).take escapeWindow).takeWhile (·.1 != '\n') <+:
      indexedFrom m t := (List.takeWhile_prefix _).trans (List.take_prefix _ _)
  generalize ((indexedFrom m t).take escapeWindow).takeWhile (·.1 != '\n') = w at hprefix
  cases h : (w.drop 1).findIdx? (·.1 == '\'') with
  | none => rfl
  | some j =>
    obtain ⟨hj, hquote, -⟩ := List.findIdx?_eq_some_iff_getElem.1 h
    rw [List.length_drop] at hj
    have hget : (w.drop 1)[j]? = (indexedFrom m t)[j + 1]? := by
      rw [List.getElem?_drop, Nat.add_comm 1 j, List.prefix_iff_getElem?.1 hprefix _ (by omega)]
      exact List.getElem?_eq_getElem (by omega)
    have hlt : j + 1 < (indexedFrom m t).length := by
      have := hprefix.length_le
      omega
    rw [Option.bind_some, Option.map_some, hget, List.getElem?_eq_getElem hlt, Option.some_inj]
    refine Prod.ext ?_ (snd_indexedFrom hlt)
    rw [List.getElem_drop, hprefix.getElem, beq_iff_eq] at hquote
    rw [← hquote]
    simp [Nat.add_comm]

/-- **A character literal ends where its length says.** -/
theorem charStop?_cons (rest : Text) :
    charStop? ('\'' :: rest) =
      (charLength? ('\'' :: rest)).map fun n => size (('\'' :: rest).take n) := by
  have hsize : '\''.utf8Size = 1 := rfl
  cases rest with
  | nil => rfl
  | cons d rest =>
    by_cases hfeed : d = '\n'
    · rw [hfeed]; rfl
    by_cases hquote : d = '\''
    · rw [hquote]; rfl
    by_cases hslash : d = '\\'
    · subst hslash
      have hstop : charStop? ('\'' :: '\\' :: rest) =
          (((((indexedFrom 2 rest).take escapeWindow).takeWhile (·.1 != '\n')).drop 1).find?
            (·.1 == '\'')).map (·.2 + 1) := rfl
      have hlength : charLength? ('\'' :: '\\' :: rest) =
          ((((rest.take escapeWindow).takeWhile (· != '\n')).drop 1).findIdx?
            (· == '\'')).map (· + 4) := rfl
      rw [hstop, hlength, find?_window, Option.map_map, Option.map_map]
      refine Option.map_congr fun j hj => ?_
      obtain ⟨c, mid, b, rfl, -, -, -, rfl⟩ := findIdx?_window_eq_some_iff.1 hj
      have hfront : (c :: (mid ++ '\'' :: b)).take (mid.length + 1) = c :: mid := by simp
      have hall : ('\'' :: '\\' :: c :: (mid ++ '\'' :: b)).take (mid.length + 4) =
          '\'' :: '\\' :: c :: (mid ++ ['\'']) := by simp [List.take_length_add_append]
      simp only [Function.comp_apply, hfront, hall, size_cons, size_append, size_nil]
      have : '\\'.utf8Size = 1 := rfl
      omega
    · cases rest with
      | nil => simp [charStop?, charLength?, indexed, indexedFrom, hfeed, hquote, hslash]
      | cons e rest =>
        by_cases he : e = '\''
        · simp [charStop?, charLength?, indexed, indexedFrom, hfeed, hquote, hslash, he,
            Option.filter, Nat.add_assoc, hsize]
        · simp [charStop?, charLength?, indexed, indexedFrom, hfeed, hquote, hslash, he]

namespace Language

variable {lang : Language}

theorem blockLength?_eq (t : Text) :
    lang.blockLength? t = (lang.comments.block.filter (·.1.isPrefixOf t)).map fun m =>
      lengthThrough m.2 (t.drop m.1.length) m.1.length := by
  cases lang with
  | braces =>
    simp only [blockLength?, comments]
    by_cases h : ['/', '*'] <+: t <;> simp [h, Option.filter]
  | indentation => rfl
  | other => rfl

/-- The end of the literal that begins at an offset of a text, if one begins there. -/
def literalStop? (lang : Language) (src : Text) (first : Nat) : Except Fault (Option Nat) := do
  let rest ← src.sliceFrom first
  if tripleDouble.isPrefixOf rest then
    return some (← src.through tripleDouble (first + 3))
  else if tripleSingle.isPrefixOf rest && lang != .braces then
    return some (← src.through tripleSingle (first + 3))
  else match rest with
    | '"' :: _ => return some (first + quotedStop '"' false rest)
    | '`' :: _ => return if lang = .braces then some (first + quotedStop '`' true rest) else none
    | '\'' :: _ =>
      return if lang = .braces then (charStop? rest).map (first + ·)
        else some (first + quotedStop '\'' false rest)
    | _ => return none

/-- **The end of a literal is found, and it is where the length of the literal says.** -/
theorem literalStop?_append (front rest : Text) :
    lang.literalStop? (front ++ rest) (size front) =
      .ok ((lang.literalLength? rest).map fun n => size front + size (rest.take n)) := by
  have hthrough : ∀ triple : Text, size triple = 3 → triple.length = 3 →
      triple.isPrefixOf rest = true →
      (front ++ rest).through triple (size front + 3) =
        .ok (size front + size (rest.take (lengthThrough triple (rest.drop 3) 3))) := by
    intro triple hsize hlength hbegins
    obtain ⟨more, rfl⟩ := List.isPrefixOf_iff_prefix.1 hbegins
    have := through_append front triple more triple
    rw [hsize, hlength] at this
    rw [this, ← hlength, List.drop_left]
  rw [literalStop?, sliceFrom_append, Fault.ok_bind]
  unfold literalLength?
  split
  · next h => rw [hthrough tripleDouble (by decide) rfl h]; rfl
  · split
    · next h =>
      rw [hthrough tripleSingle (by decide) rfl (Bool.and_eq_true_iff.1 h).1]
      rfl
    · cases rest with
      | nil => rfl
      | cons c more =>
        by_cases hdouble : c = '"'
        · subst hdouble
          show Except.ok (some (size front + quotedStop '"' false ('"' :: more))) = _
          rw [quotedStop_cons]
          rfl
        by_cases hback : c = '`'
        · subst hback
          show Except.ok (if lang = .braces then
            some (size front + quotedStop '`' true ('`' :: more)) else none) = _
          rw [quotedStop_cons]
          by_cases hbraces : lang = .braces
          · subst hbraces
            rfl
          · simp [hbraces]
        by_cases hsingle : c = '\''
        · subst hsingle
          show Except.ok (if lang = .braces then
            (charStop? ('\'' :: more)).map (size front + ·)
            else some (size front + quotedStop '\'' false ('\'' :: more))) = _
          rw [quotedStop_cons, charStop?_cons, Option.map_map]
          by_cases hbraces : lang = .braces
          · subst hbraces
            rfl
          · simp [hbraces]
        · simp [hdouble, hback, hsingle]
          rfl

end Language

end CodeFolding
