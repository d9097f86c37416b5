import CodeFolding.Proofs.Header.Statement
import CodeFolding.Proofs.Scanner.Header
import Mathlib.Order.Bounds.Defs
/-!
# What a name is

The name that is found for a header is a word of the header, cut out of it whole. Without a word
that introduces functions it is the last word in front of the parameters, and no word of a
statement. The parameters end at the first byte up to which as many parentheses close as open. Main
statement: `method?_is_word`.
-/
namespace CodeFolding

open Text

/-! ## The place of a closing bracket -/

section Brackets

variable {α : Type} [DecidableEq α] {opening closing : α} {depth i n : Nat} {x : α} {l : List α}

/-- Up to the index and with it, as many brackets close as are open in front and open there. -/
def ClosesAt (opening closing : α) (depth : Nat) (l : List α) (i : Nat) : Prop :=
  i < l.length ∧ (l.take (i + 1)).count closing = depth + (l.take (i + 1)).count opening

theorem closesAt_cons_succ {depth' : Nat}
    (h : depth' + [x].count closing = depth + [x].count opening) :
    ClosesAt opening closing depth (x :: l) (i + 1) ↔ ClosesAt opening closing depth' l i := by
  rw [ClosesAt, ClosesAt, List.length_cons, Nat.add_lt_add_iff_right, List.take_succ_cons,
    List.count_cons, List.count_cons]
  rw [List.count_singleton, List.count_singleton] at h
  exact and_congr_right fun _ => by omega

theorem closesAt_cons_zero :
    ClosesAt opening closing depth (x :: l) 0 ↔ [x].count closing = depth + [x].count opening := by
  simp [ClosesAt]

/-- What the search for a closing bracket can find: the first index at which the open ones are
closed, or none if there is no such index. -/
def FindsClosing (opening closing : α) (depth n : Nat) (l : List α)
    (found : Except Fault (Option Nat)) : Prop :=
  (∃ i, found = .ok (some (n + i)) ∧ ClosesAt opening closing depth l i ∧
    ∀ j < i, ¬ ClosesAt opening closing depth l j) ∨
  found = .ok none ∧ ∀ i, ¬ ClosesAt opening closing depth l i

theorem FindsClosing.cons {depth' : Nat} {found : Except Fault (Option Nat)}
    (h : FindsClosing opening closing depth' (n + 1) l found)
    (hcount : depth' + [x].count closing = depth + [x].count opening) (hopen : depth' ≠ 0) :
    FindsClosing opening closing depth n (x :: l) found := by
  have hzero : ¬ ClosesAt opening closing depth (x :: l) 0 := by
    rw [closesAt_cons_zero]
    omega
  rcases h with ⟨i, hfound, hi, hfirst⟩ | ⟨hfound, hnone⟩
  · refine Or.inl ⟨i + 1, ?_, (closesAt_cons_succ hcount).2 hi, fun j hj => ?_⟩
    · rw [hfound, Nat.add_assoc, Nat.add_comm 1]
    · cases j with
      | zero => exact hzero
      | succ j => exact fun h => hfirst j (by omega) ((closesAt_cons_succ hcount).1 h)
  · refine Or.inr ⟨hfound, fun i => ?_⟩
    cases i with
    | zero => exact hzero
    | succ i => exact fun h => hnone i ((closesAt_cons_succ hcount).1 h)

/-- **While a bracket is open, the search finds the first index at which all are closed.** -/
theorem findsClosing_closingPlace (hne : opening ≠ closing) (depth n : Nat) (l : List α) :
    FindsClosing opening closing (depth + 1) n l
      (closingPlace opening closing (depth + 1) (l.zipIdx n)) := by
  induction l generalizing depth n with
  | nil => exact Or.inr ⟨rfl, fun i h => Nat.not_lt_zero i h.1⟩
  | cons x l ih =>
    rw [List.zipIdx_cons, closingPlace]
    by_cases hopening : x = opening
    · rw [if_pos hopening]
      exact (ih (depth + 1) (n + 1)).cons (by simp [hopening, hne]) (Nat.succ_ne_zero _)
    · rw [if_neg hopening]
      by_cases hclosing : x = closing
      · rw [if_pos hclosing, Fault.minus, if_pos (Nat.le_add_left 1 depth), Fault.ok_bind,
          Nat.add_sub_cancel]
        cases depth with
        | zero =>
          refine Or.inl ⟨0, rfl, closesAt_cons_zero.2 ?_, fun j hj => absurd hj (Nat.not_lt_zero j)⟩
          simp [hclosing, hne.symm]
        | succ depth =>
          exact (ih depth (n + 1)).cons (by simp [hclosing, hne.symm]) (Nat.succ_ne_zero _)
      · rw [if_neg hclosing]
        exact (ih depth (n + 1)).cons (by simp [hopening, hclosing]) (Nat.succ_ne_zero _)

end Brackets

namespace Text

/-- From an offset through an index, as many parentheses close as open. -/
def IsBalancedThrough (t : Text) (first k : Nat) : Prop :=
  first ≤ k ∧ k < size t ∧
    ((t.bytes.drop first).take (k + 1 - first)).count ')'.toUInt8 =
      ((t.bytes.drop first).take (k + 1 - first)).count '('.toUInt8

theorem isBalancedThrough_append (front rest : Text) (k : Nat) :
    IsBalancedThrough (front ++ rest) (size front) k ↔
      ∃ i, k = size front + i ∧ ClosesAt '('.toUInt8 ')'.toUInt8 0 rest.bytes i := by
  rw [IsBalancedThrough, bytes_append, List.drop_left' (length_bytes front), size_append]
  constructor
  · rintro ⟨hle, hlt, hcount⟩
    obtain ⟨i, rfl⟩ := Nat.exists_eq_add_of_le hle
    rw [show size front + i + 1 - size front = i + 1 by omega] at hcount
    exact ⟨i, rfl, by rw [length_bytes]; omega, by rw [hcount, Nat.zero_add]⟩
  · rintro ⟨i, rfl, hlt, hcount⟩
    rw [length_bytes] at hlt
    rw [show size front + i + 1 - size front = i + 1 by omega, hcount, Nat.zero_add]
    exact ⟨Nat.le_add_right _ _, by omega, rfl⟩

theorem findsClosing_closingParen? (front rest : Text) :
    FindsClosing '('.toUInt8 ')'.toUInt8 0 (size front) (bytes ('(' :: rest))
      (closingParen? (front ++ '(' :: rest) (size front)) := by
  have hbytes : bytes ('(' :: rest) = '('.toUInt8 :: rest.bytes := rfl
  rw [closingParen?_append, hbytes, List.zipIdx_cons, closingPlace, if_pos rfl]
  exact (findsClosing_closingPlace (by decide) 0 (size front + 1) rest.bytes).cons
    (by decide) (Nat.succ_ne_zero 0)

/-- **The closing parenthesis of an opening one is at the least index through which as many close
as open,** and there is none if there is no such index. -/
theorem closingParen?_isLeast (front rest : Text) :
    (∃ n, closingParen? (front ++ '(' :: rest) (size front) = .ok (some n) ∧
      IsLeast {k | IsBalancedThrough (front ++ '(' :: rest) (size front) k} n) ∨
    closingParen? (front ++ '(' :: rest) (size front) = .ok none ∧
      ∀ k, ¬ IsBalancedThrough (front ++ '(' :: rest) (size front) k := by
  rcases findsClosing_closingParen? front rest with ⟨i, hfound, hi, hfirst⟩ | ⟨hfound, hnone⟩
  · refine Or.inl ⟨size front + i, hfound, (isBalancedThrough_append _ _ _).2 ⟨i, rfl, hi⟩, ?_⟩
    intro k hk
    obtain ⟨j, rfl, hj⟩ := (isBalancedThrough_append _ _ _).1 hk
    exact Nat.add_le_add_left (Nat.le_of_not_lt fun hlt => hfirst j hlt hj) _
  · refine Or.inr ⟨hfound, fun k hk => ?_⟩
    obtain ⟨j, -, hj⟩ := (isBalancedThrough_append _ _ _).1 hk
    exact hnone j hj

end Text

namespace Header

/-! ## Names are words -/

/-- The name of a method that a word introduces is the next word of its header. -/
theorem mem_words_of_introducedName? {ws : List Text} {rest name : Text}
    (h : introducedName? ws ('(' :: rest) = some name) : name ∈ ws ∨ name ∈ words rest := by
  cases ws with
  | cons w ws =>
    obtain rfl : w = name := Option.some.inj h
    exact Or.inl List.mem_cons_self
  | nil =>
    rw [introducedName?, behindParens_cons, Option.bind_eq_bind, Option.bind_eq_some_iff] at h
    obtain ⟨behind, hclosing, hname⟩ := h
    obtain ⟨hne, hname⟩ := Option.ite_none_left_eq_some.1 hname
    obtain ⟨inner, rfl, -⟩ := (behindClosing_eq_some_iff (by decide)).1 hclosing
    obtain rfl := Option.some.inj hname
    have hword := isWordOf_firstWord (mt List.isEmpty_iff.2 hne)
    have hbehind := hword.mem_words
    rw [words_trimStart] at hbehind
    rw [words_append_cons (by decide), words_cons_of_not (by decide)]
    exact Or.inr (List.mem_append_right _ hbehind)

/-- **The name of a method is a word of its header.** -/
theorem mem_words_of_method? {header name : Text} (h : method? header = some name) :
    name ∈ words header := by
  refine (words_dropAnnotations_trim header).subset ?_
  by_cases hparen : '(' ∈ dropAnnotations (trim header)
  · obtain ⟨front, rest, hsplit, hfront⟩ := List.eq_append_cons_of_mem hparen
    by_cases hplain : ∀ w ∈ words front, w ∉ functionWords
    · have htake := (cut_at_paren hfront rest).1
      rw [← hsplit] at htake
      obtain ⟨d, hd, htext, rfl⟩ := (method?_eq_some_iff (htake.symm ▸ hplain)).1 h
      rw [← htext, hd.words_text]
      simp
    · rw [method?_of_front hfront hsplit] at h
      obtain ⟨-, h⟩ := Option.ite_none_left_eq_some.1 h
      rw [hsplit, words_append_cons (by decide), words_cons_of_not (by decide), List.mem_append]
      cases hdrop : (words front).dropWhile fun w => !functionWords.contains w with
      | nil =>
        refine absurd (fun w hw => ?_) hplain
        simpa using List.dropWhile_eq_nil_iff.1 hdrop w hw
      | cons w behind =>
        rw [hdrop] at h
        have hsuffix := List.dropWhile_suffix (l := words front)
          fun w => !functionWords.contains w
        rw [hdrop] at hsuffix
        exact (mem_words_of_introducedName? h).imp_left fun hmem =>
          hsuffix.subset (List.mem_cons_of_mem w hmem)
  · rw [method?_of_not_mem hparen] at h
    cases h

/-- **A name is a word of the header, found without a fault.** On every header the recognition
succeeds, and the name it finds is a whole word of the header. If no word in front of the first
parenthesis behind the annotations introduces functions, the name is no word of a statement, it does
not begin with a digit, and it stands in front of that parenthesis with nothing but blanks and
perhaps a type-parameter clause between them. The parenthesis that closes an opening one is at the
least index through which as many close as open. -/
theorem method?_is_word (header : Text) :
    sliceMethod? header = .ok (method? header) ∧
    (∀ name, method? header = some name → IsWordOf name header ∧
      ((∀ w ∈ words ((dropAnnotations (trim header)).takeWhile (· != '(')), w ∉ functionWords) →
        name ∉ controlWords ∧ (∀ c ∈ name.head?, c.isDigit = false) ∧
        ∃ before clause parens,
          dropAnnotations (trim header) = before ++ name ++ clause ++ '(' :: parens ∧
          '(' ∉ before ++ name ++ clause ∧ IsClause clause ∧
          ∀ c ∈ before.getLast?, isWordChar c = false)) ∧
    ∀ front rest,
      (∃ n, closingParen? (front ++ '(' :: rest) (size front) = .ok (some n) ∧
        IsLeast {k | IsBalancedThrough (front ++ '(' :: rest) (size front) k} n) ∨
      closingParen? (front ++ '(' :: rest) (size front) = .ok none ∧
        ∀ k, ¬ IsBalancedThrough (front ++ '(' :: rest) (size front) k := by
  refine ⟨sliceMethod?_eq header, fun name h => ?_, closingParen?_isLeast⟩
  refine ⟨mem_words_iff.1 (mem_words_of_method? h), fun hplain => ?_⟩
  obtain ⟨d, hd, htext, rfl⟩ := (method?_eq_some_iff hplain).1 h
  exact ⟨hd.isMethodName.not_control, hd.isMethodName.not_digit, d.before, d.clause, _,
    htext.symm, hd.not_paren, hd.isClause, hd.before_ends⟩

/-- A type-parameter clause between the name and the parameters, and parentheses in them. -/
theorem method?_is_word_all :
    let header : Text := "@Named(x) <T> List<T> all<T> (f(T) c, int é) throws X".toList
    method? header = some "all".toList ∧
      (∀ w ∈ words ((dropAnnotations (trim header)).takeWhile (· != '(')), w ∉ functionWords) ∧
      IsWordOf "all".toList header ∧ "all".toList ∉ controlWords := by
  intro header
  have hname : method? header = some "all".toList := by decide +kernel
  have hplain : ∀ w ∈ words ((dropAnnotations (trim header)).takeWhile (· != '(')),
      w ∉ functionWords := by decide +kernel
  obtain ⟨hword, hnames⟩ := (method?_is_word header).2.1 _ hname
  exact ⟨hname, hplain, hword, (hnames hplain).1⟩

end Header

end CodeFolding
