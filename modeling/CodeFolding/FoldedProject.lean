import CodeFolding.FoldedFile
import CodeFolding.Tree.Walk
/-!
# Folding a project

Of the files that a walk has found those are folded whose extension is asked for and whose path a
filter accepts. The files that are read are counted, and the activated ones listed by their paths.
-/
namespace CodeFolding

/-- Files with more bytes are not read. -/
def maxFileSize : Nat := 512 * 1024

structure FoldedProject where
  /-- The number of files that were read. -/
  filesScanned : Nat
  /-- The number of activated files. -/
  filesActivated : Nat
  /-- The number of regions in all activated files. -/
  regionCount : Nat
  /-- The activated files, in the order of their paths. -/
  files : List FoldedFile
deriving DecidableEq, Repr

namespace Settings

def selects (s : Settings) (filter : String → Bool) (f : FoundFile) : Bool :=
  foldsExtension s.extensions f.extension && filter f.path

/-- The folds of a file, unless it is too large or no text. -/
def foldOne (s : Settings) (f : FoundFile) : Option FoldedFile :=
  if maxFileSize < f.content.size then none
  else (Tree.textOf? f.content).map fun t => foldText s f.path t f.extension

/-- Folds the files that a walk has found. -/
def foldAll (s : Settings) (filter : String → Bool) (found : List FoundFile) : FoldedProject :=
  let folded := (found.filter (s.selects filter)).filterMap s.foldOne
  let listed := (folded.filter (·.activated)).mergeSort (fun f g => f.path ≤ g.path)
  { filesScanned := folded.length
    filesActivated := listed.length
    regionCount := listed.foldl (fun n f => n + f.regions.length) 0
    files := listed }

end Settings

end CodeFolding
