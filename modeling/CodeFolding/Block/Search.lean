import CodeFolding.Block.Basic
import CodeFolding.Line.Basic
import CodeFolding.Text.Word
/-!
# Blocks of indented lines

A line opens a block when the next line is indented deeper. The block closes at the first line
further down that has the indentation of the opener. Blank lines and comment lines neither open nor
close a block, and an opener that is never closed makes none. A placeholder stands for a folded
block: a few characters of the line that opens it.
-/
namespace CodeFolding

/-! ## Placeholders -/

/-- Three dots, written behind every placeholder. -/
def ellipsis : Text := ['.', '.', '.']

/-- The word behind the first dot of the line, with its dot, as in a chain of calls; of a line
without a dot its first five characters. -/
def placeholder (line : Text) : Text :=
  let t := Text.trimStart line
  match t.dropWhile (· != '.') with
  | dot :: rest => dot :: Text.firstWord rest ++ ellipsis
  | [] => t.take 5 ++ ellipsis

/-! ## Openers and closers -/

/-- A block by its first and last line. -/
structure Block where
  startLine : Nat
  endLine : Nat
  placeholder : Text
deriving DecidableEq, Repr

/-- A block by the bytes that fold away. -/
structure Region where
  startOffset : Nat
  endOffset : Nat
  placeholder : Text
  startLine : Nat
  endLine : Nat
deriving DecidableEq, Repr

/-- Regions are shown open until their reader folds them. -/
def Region.isCollapsed (_ : Region) : Bool := false

/-- The line that closes the block `opener` begins, among the lines below it. -/
def closer? (excluded : IndentedLine → Bool) (opener : IndentedLine) :
    List IndentedLine → Option IndentedLine
  | [] => none
  | next :: rest =>
    if excluded opener || next.level ≤ opener.level then none
    else rest.find? (fun l => l.level == opener.level && !excluded l)

/-- Reads one more line, from below: the lines below it and the pairs found among them. -/
def addOpener (excluded : IndentedLine → Bool) (l : IndentedLine) :
    List IndentedLine × List (IndentedLine × IndentedLine) →
      List IndentedLine × List (IndentedLine × IndentedLine)
  | (below, pairs) =>
    (l :: below,
      match closer? excluded l below with
      | some m => (l, m) :: pairs
      | none => pairs)

/-- Openers with their closers, from the top. -/
def pairLines (excluded : IndentedLine → Bool) (lines : List IndentedLine) :
    List (IndentedLine × IndentedLine) :=
  (lines.foldr (addOpener excluded) ([], [])).2

theorem fst_foldr_addOpener (excluded : IndentedLine → Bool) (lines : List IndentedLine) :
    (lines.foldr (addOpener excluded) ([], [])).1 = lines := by
  induction lines with
  | nil => rfl
  | cons l lines ih => rw [List.foldr_cons, addOpener, ih]

@[simp] theorem pairLines_nil (excluded : IndentedLine → Bool) : pairLines excluded [] = [] := rfl

theorem pairLines_cons (excluded : IndentedLine → Bool) (l : IndentedLine)
    (lines : List IndentedLine) :
    pairLines excluded (l :: lines) =
      match closer? excluded l lines with
      | some m => (l, m) :: pairLines excluded lines
      | none => pairLines excluded lines := by
  rw [pairLines, List.foldr_cons, addOpener, fst_foldr_addOpener]
  rfl

namespace Layout

/-- What the search reads of a range. Of a range too short for a block it reads nothing. -/
def indents (y : Layout) (src : LineReader) (r : LineRange) : List IndentedLine :=
  if r.isEmpty || r.isPair then [] else (src.run r).map y.indentOf

/-- The blocks in a range of lines, by ascending first line. -/
def blocks (y : Layout) (src : LineReader) (r : LineRange) (isComment : Nat → Bool) : List Block :=
  (pairLines (fun l => l.blank || isComment l.line) (y.indents src r)).map
    fun (l, m) => ⟨l.line, m.line, placeholder ((src.text? l.line).getD [])⟩

/-- The bytes of a block; nothing if the source does not know its offsets. -/
def regionOf (y : Layout) (src : LineReader) (b : Block) : Option Region := do
  let start ← src.start? b.startLine
  let startOffset ← match y.regionStart with
    | .lineStart => some start
    | .skipIndent => (src.text? b.startLine).map fun t => start + y.level t * y.width
  let endOffset ← src.stop? b.endLine
  return ⟨startOffset, endOffset, b.placeholder, b.startLine, b.endLine⟩

def regions (y : Layout) (src : LineReader) (r : LineRange) (isComment : Nat → Bool) :
    List Region :=
  (y.blocks src r isComment).filterMap (y.regionOf src)

end Layout

end CodeFolding
