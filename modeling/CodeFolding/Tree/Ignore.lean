import CodeFolding.Line.Basic
import CodeFolding.Text.Basic
import CodeFolding.Tree.Basic
/-!
# Ignored files

Directories may hold lists of patterns. A pattern says that the files it matches, below its own
directory, are ignored, or are not ignored after all. The lists of a directory count more than the
lists of the directories around it, and within a list the last pattern that matches counts.
-/
namespace CodeFolding

/-! ## Patterns -/

/-- Whether items match a pattern in which `none` stands for any number of items. -/
def wildMatch {α β : Type} (test : α → β → Bool) : List (Option α) → List β → Bool
  | [], items => items.isEmpty
  | some a :: pattern, b :: items => test a b && wildMatch test pattern items
  | some _ :: _, [] => false
  | none :: pattern, [] => wildMatch test pattern []
  | none :: pattern, b :: items =>
    wildMatch test pattern (b :: items) || wildMatch test (none :: pattern) items
termination_by pattern items => (pattern.length, items.length)

/-- A pattern for the name of a file: characters, each of which may be left open, and places for
any number of them. -/
abbrev NamePattern := List (Option (Option Char))

/-- A pattern for steps that lead to a file, with places for any number of directories. -/
abbrev StepsPattern := List (Option NamePattern)

namespace NamePattern

def accepts (p : NamePattern) (name : String) : Bool :=
  wildMatch (fun (a : Option Char) c => a.all (· == c)) p name.toList

/-- The pattern that a text writes: a star for any number of characters, a question mark for one,
and a backslash in front of a character that stands for itself. -/
def ofText? : Text → Option NamePattern
  | [] => some []
  | ['\\'] => none
  | '\\' :: c :: rest => (ofText? rest).map (some (some c) :: ·)
  | '*' :: rest => (ofText? rest).map (none :: ·)
  | '?' :: rest => (ofText? rest).map (some none :: ·)
  | c :: rest => (ofText? rest).map (some (some c) :: ·)

end NamePattern

/-- What a pattern does to the files it matches. -/
inductive Verdict where
  | ignore
  | keep
deriving DecidableEq, Repr

structure IgnoreRule where
  verdict : Verdict
  /-- Whether the pattern is for directories alone. -/
  directoryOnly : Bool
  pattern : StepsPattern

namespace IgnoreRule

/-- A pattern for one step; two stars stand for any number of directories. -/
def stepOfText? (step : String) : Option (Option NamePattern) :=
  if step = "**" then some none else (NamePattern.ofText? step.toList).map some

/-- The pattern of steps. One that is not `anchored` may match at any depth; two stars at the end
stand for what is in a directory and not for the directory. -/
def patternOf? (anchored : Bool) (steps : List String) : Option StepsPattern := do
  let pattern ← steps.mapM stepOfText?
  let pattern := if anchored then pattern else none :: pattern
  return if pattern.length > 1 && steps.getLast? == some "**" then pattern ++ [some [none]]
    else pattern

/-- A line without the blanks at its end, unless a backslash keeps the last one. -/
def trimmed (line : Text) : Text :=
  if [' ', '\\'].isPrefixOf line.reverse then line else Text.trimEnd line

/-- The rule that a text with neither comments nor a negation in front writes. A slash at the end
asks for a directory; any other slash ties the pattern to the directory of the list. -/
def ofPattern? (verdict : Verdict) (anchored : Bool) (t : Text) : Option IgnoreRule := do
  let directoryOnly := t.getLast? == some '/'
  let t := if directoryOnly then t.dropLast else t
  let t := if directoryOnly && t.getLast? == some '\\' then t.dropLast else t
  return ⟨verdict, directoryOnly,
    ← patternOf? (anchored || t.contains '/') (Path.parts (String.ofList t))⟩

/-- The rule of a line, if it has one. -/
def ofLine? (line : Text) : Option IgnoreRule :=
  match trimmed line with
  | [] => none
  | '#' :: _ => none
  | '\\' :: '!' :: rest => ofPattern? .ignore false ('!' :: rest)
  | '\\' :: '#' :: rest => ofPattern? .ignore false ('#' :: rest)
  | '!' :: '/' :: rest => ofPattern? .keep true rest
  | '!' :: rest => ofPattern? .keep false rest
  | '/' :: rest => ofPattern? .ignore true rest
  | t => ofPattern? .ignore false t

/-- Whether a rule is about a file or directory, given the steps from the directory of the rule. -/
def matches? (r : IgnoreRule) (steps : List String) (isDirectory : Bool) : Bool :=
  (!r.directoryOnly || isDirectory) && wildMatch NamePattern.accepts r.pattern steps

end IgnoreRule

/-! ## Lists of patterns -/

/-- The rules of a list, the last one first. A byte order mark in front does not count. -/
def rulesOf (t : Text) : List IgnoreRule :=
  let t := match t with
    | '\uFEFF' :: rest => rest
    | _ => t
  ((Line.ofText t).toList.filterMap fun l => IgnoreRule.ofLine? l.text).reverse

namespace Tree

/-- What the list with a given name in a directory says about something below it. -/
def verdictIn (t : Tree) (list : List String) (steps : List String) (isDirectory : Bool)
    (directory : List String) : Option Verdict := do
  let rules := rulesOf (← textOf? (← t.file? (directory ++ list)))
  let rule ← rules.find? (·.matches? (steps.drop directory.length) isDirectory)
  return rule.verdict

/-- Whether a directory is the top of a repository. -/
def isRepository (t : Tree) (directory : List String) : Bool :=
  (t.at? (directory ++ [".git"])).isSome

/-- The directories of a list up to the first that is the top of a repository; none if there is no
such directory. -/
def inRepository (t : Tree) (directories : List (List String)) : List (List String) :=
  if directories.any t.isRepository then
    directories.take ((directories.takeWhile (!t.isRepository ·)).length + 1)
  else []

/-- What the lists of the tree say about a file or directory. Lists for all tools come before
those of a repository, and these before the list that only the repository itself knows. -/
def verdict? (t : Tree) (steps : List String) (isDirectory : Bool) : Option Verdict :=
  let around := Path.enclosing steps
  let repository := t.inRepository around
  around.findSome? (t.verdictIn [".ignore"] steps isDirectory) <|>
  repository.findSome? (t.verdictIn [".gitignore"] steps isDirectory) <|>
  repository.findSome? (t.verdictIn [".git", "info", "exclude"] steps isDirectory)

/-- Names with a dot in front are hidden. -/
def isHidden (name : String) : Bool := name.toList.head? == some '.'

/-- Whether a file or directory is passed over. What no list decides is passed over if it is
hidden. -/
def isIgnored (t : Tree) (steps : List String) (isDirectory : Bool) : Bool :=
  match t.verdict? steps isDirectory with
  | some v => v == .ignore
  | none => isHidden (steps.getLastD "")

end Tree

end CodeFolding
