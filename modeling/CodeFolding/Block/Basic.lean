import CodeFolding.Text.Basic
/-!
# Indentation

The indentation of a line is its leading spaces, counted in levels of equal width. A tab is no
space: it ends the count like any other character.
-/
namespace CodeFolding

/-- Where a region begins on the line that opens it. -/
inductive RegionStart where
  /-- At the first byte of the line. -/
  | lineStart
  /-- Behind the whole levels of indentation. -/
  | skipIndent
deriving DecidableEq, Repr

namespace RegionStart

def name : RegionStart → String
  | .lineStart => "line-start"
  | .skipIndent => "skip-indent"

def ofName? (s : String) : Option RegionStart :=
  [lineStart, skipIndent].find? (fun p => p.name == s)

theorem ofName?_name (p : RegionStart) : ofName? p.name = some p := by cases p <;> decide

end RegionStart

/-- How indentation is measured and where regions begin. -/
structure Layout where
  tabSize : Nat := 4
  regionStart : RegionStart := .lineStart
deriving DecidableEq, Repr

namespace Layout

/-- Spaces in a level, at least one. -/
def width (y : Layout) : Nat := max y.tabSize 1

/-- Whole levels of leading spaces. -/
def level (y : Layout) (t : Text) : Nat := (t.takeWhile (· == ' ')).length / y.width

end Layout

/-- What the search for blocks knows about a line. -/
structure IndentedLine where
  line : Nat
  level : Nat
  blank : Bool
deriving DecidableEq, Repr

/-- The record of a line with its number and content. -/
def Layout.indentOf (y : Layout) (l : Nat × Text) : IndentedLine :=
  ⟨l.1, y.level l.2, l.2.all isBlank⟩

end CodeFolding
