import CodeFolding.Proofs.Header.Front
import Mathlib.Data.Bool.AllAny
/-!
# Annotations in front of a header

An annotation is an `@` with a path behind it and perhaps arguments in parentheses. The header is
read behind all of them, and the arguments of each end with the parenthesis that closes them,
whatever stands inside. Only an annotation without arguments is read differently according to what
comes next: a parenthesis there is taken for the one in front of its arguments. Main statement:
`method?_annotated`.
-/
namespace CodeFolding.Header

open Text

/-! ## One annotation -/

/-- An annotation: the path behind the `@`, and what stands in the parentheses behind the path. -/
structure Annotation where
  path : Text
  arguments : Option Text
  isPath : ∀ c ∈ path, isWordChar c = true ∨ c = '.'
  /-- The parenthesis in front of the arguments is closed by the one behind them. -/
  isBalanced : ∀ inner ∈ arguments, IsBalanced '(' ')' inner

namespace Annotation

def group : Option Text → Text
  | none => []
  | some inner => '(' :: (inner ++ [')'])

def text (a : Annotation) : Text := '@' :: (a.path ++ group a.arguments)

variable {header more : Text}

theorem exists_text_eq (a : Annotation) : ∃ s c, a.text = s ++ [c] ∧ isBlank c = false := by
  cases hgroup : a.arguments with
  | some inner =>
    refine ⟨'@' :: (a.path ++ '(' :: inner), ')', ?_, by decide⟩
    simp [text, group, hgroup]
  | none =>
    rcases List.eq_nil_or_concat a.path with hpath | ⟨s, c, hpath⟩
    · exact ⟨[], '@', by simp [text, group, hgroup, hpath], by decide⟩
    · refine ⟨'@' :: s, c, by simp [text, group, hgroup, hpath], ?_⟩
      rcases a.isPath c (by simp [hpath]) with hword | rfl
      · exact isBlank_eq_false_of_isWordChar hword
      · decide

theorem trim_text_append (a : Annotation) (more : Text) :
    trim (a.text ++ more) = a.text ++ trimEnd more := by
  obtain ⟨s, c, htext, hc⟩ := a.exists_text_eq
  have hstart : trimStart (a.text ++ more) = a.text ++ more := by
    rw [text, List.cons_append, trimStart, List.dropWhile_cons_of_neg (by decide)]
  rw [trim, hstart, htext, List.append_assoc, List.singleton_append, trimEnd_append_cons hc,
    List.append_assoc, List.singleton_append]

/-- The path of an annotation ends where the arguments or a blank begin. -/
theorem dropWhile_path (a : Annotation) (hmore : ∀ c ∈ more.head?, isWordChar c = false ∧ c ≠ '.') :
    (a.path ++ more).dropWhile (fun c => isWordChar c || c == '.') = more := by
  have hpass : ∀ c ∈ a.path, (isWordChar c || c == '.') = true := fun c hc => by
    simpa using a.isPath c hc
  rw [List.dropWhile_append_of_pos hpass]
  cases more with
  | nil => rfl
  | cons c more =>
    obtain ⟨hword, hdot⟩ := hmore c rfl
    exact List.dropWhile_cons_of_neg (by simp [hword, hdot])

/-- **Behind an annotation the text goes on without the blanks between.** If the annotation has no
arguments, the text must not begin with a parenthesis. -/
theorem behindDecorator_append (a : Annotation) (hmore : ∀ c ∈ more.head?, isBlank c = true)
    (hparen : a.arguments = none → (trimStart more).head? ≠ some '(') :
    behindDecorator (a.path ++ group a.arguments ++ more) = trimStart more := by
  cases hgroup : a.arguments with
  | none =>
    have hstop : ∀ c ∈ more.head?, isWordChar c = false ∧ c ≠ '.' := by
      intro c hc
      refine ⟨isWordChar_of_isBlank (hmore c hc), ?_⟩
      rintro rfl
      exact absurd (hmore _ hc) (by decide)
    have hnone : ¬ ['('].isPrefixOf (trimStart more) = true := by
      rw [List.isPrefixOf_iff_prefix]
      rintro ⟨rest, hrest⟩
      exact hparen hgroup (by rw [← hrest]; rfl)
    rw [behindDecorator, group, List.append_nil, dropWhile_path a hstop, if_neg hnone]
  | some inner =>
    have hgroup' : a.path ++ group (some inner) ++ more =
        a.path ++ '(' :: (inner ++ ')' :: more) := by
      simp [group]
    have hstart : trimStart ('(' :: (inner ++ ')' :: more)) = '(' :: (inner ++ ')' :: more) :=
      List.dropWhile_cons_of_neg (by decide)
    have hopen : ['('].isPrefixOf ('(' :: (inner ++ ')' :: more)) = true :=
      List.isPrefixOf_iff_prefix.2 ⟨_, rfl⟩
    have hbehind : behindParens ('(' :: (inner ++ ')' :: more)) = some more := by
      rw [behindParens_cons, behindClosing_eq_some_iff (by decide)]
      exact ⟨inner, rfl, a.isBalanced inner hgroup⟩
    have hparens : ∀ c ∈ ('(' :: (inner ++ ')' :: more)).head?, isWordChar c = false ∧ c ≠ '.' := by
      rintro c ⟨⟩
      exact ⟨by decide +kernel, by decide⟩
    rw [hgroup', behindDecorator, dropWhile_path a hparens, hstart, if_pos hopen, hbehind]
    rfl

/-- **An annotation is cut off with the blank behind it.** -/
theorem dropAnnotations_text (a : Annotation)
    (hparen : a.arguments = none → (trim header).head? ≠ some '(') :
    dropAnnotations (trim (a.text ++ ' ' :: header)) = dropAnnotations (trim header) := by
  have htrim : trimStart (trimEnd (' ' :: header)) = trim header := by
    rw [trimStart_trimEnd, trim, trim]
    rfl
  have hmore : ∀ c ∈ (trimEnd (' ' :: header)).head?, isBlank c = true := by
    intro c hc
    obtain ⟨rest, hrest⟩ := List.head?_eq_some_iff.1 hc
    obtain ⟨trail, htrail⟩ := trimEnd_prefix_self (' ' :: header)
    rw [hrest] at htrail
    obtain rfl : c = ' ' := (List.cons.inj htrail).1
    decide
  rw [trim_text_append, text, List.cons_append, dropAnnotations_at,
    a.behindDecorator_append hmore (by rwa [htrim]), htrim]

end Annotation

/-! ## All annotations -/

/-- A header with annotations in front of it, and a space behind each of them. -/
def annotate (as : List Annotation) (header : Text) : Text :=
  (as.flatMap fun a => a.text ++ [' ']) ++ header

variable {as : List Annotation} {header : Text}

theorem annotate_cons (a : Annotation) (as : List Annotation) (header : Text) :
    annotate (a :: as) header = a.text ++ ' ' :: annotate as header := by
  simp [annotate]

/-- A header with annotations in front does not begin with a parenthesis, unless it does so without
them. -/
theorem head?_trim_annotate (h : as = [] → (trim header).head? ≠ some '(') :
    (trim (annotate as header)).head? ≠ some '(' := by
  cases as with
  | nil => exact h rfl
  | cons a as =>
    rw [annotate_cons, Annotation.trim_text_append, Annotation.text]
    simp

/-- **Annotations are cut off, however many there are.** -/
theorem dropAnnotations_annotate
    (hlast : ∀ a ∈ as.getLast?, a.arguments = none → (trim header).head? ≠ some '(') :
    dropAnnotations (trim (annotate as header)) = dropAnnotations (trim header) := by
  induction as with
  | nil => rfl
  | cons a as ih =>
    have hparen : a.arguments = none → (trim (annotate as header)).head? ≠ some '(' := by
      intro hnone
      apply head?_trim_annotate
      rintro rfl
      exact hlast a rfl hnone
    have hrest : ∀ b ∈ as.getLast?, b.arguments = none → (trim header).head? ≠ some '(' := by
      intro b hb
      refine hlast b ?_
      rw [List.getLast?_cons, Option.mem_def.1 hb]
      rfl
    rw [annotate_cons, a.dropAnnotations_text hparen, ih hrest]

/-- **Annotations in front of a declaration are transparent.** A header with annotations in front
names the method that it names without them, or none as without them. It must not begin with a
parenthesis if the last annotation has no arguments. -/
theorem method?_annotated (as : List Annotation) (header : Text)
    (hlast : ∀ a ∈ as.getLast?, a.arguments = none → (trim header).head? ≠ some '(') :
    method? (annotate as header) = method? header := by
  rw [method?, method?, dropAnnotations_annotate hlast]

/-- A parenthesis in the arguments of one annotation, and a path with a dot in front of the
declaration. -/
theorem method?_annotated_all :
    let as : List Annotation :=
      [⟨"Named".toList, some "\"a(b)\", c()".toList,
          List.all_iff_forall_prop.1 (by decide +kernel), by
            rintro inner ⟨⟩
            decide⟩,
        ⟨"java.lang.Override".toList, none, List.all_iff_forall_prop.1 (by decide +kernel),
          by rintro inner ⟨⟩⟩]
    let header : Text := "public <T> List<T> all(Class<T> c)".toList
    (∀ a ∈ as.getLast?, a.arguments = none → (trim header).head? ≠ some '(') ∧
      method? (annotate as header) = some "all".toList := by
  intro as header
  have hlast : ∀ a ∈ as.getLast?, a.arguments = none → (trim header).head? ≠ some '(' := by
    intro a _ _
    decide +kernel
  have hname : method? header = some "all".toList := by decide +kernel
  exact ⟨hlast, (method?_annotated as header hlast).trans hname⟩

end CodeFolding.Header
