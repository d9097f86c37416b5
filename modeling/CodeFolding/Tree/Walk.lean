import CodeFolding.Settings.Basic
import CodeFolding.Tree.Ignore
/-!
# Walking a tree

A walk finds the files below a directory. It enters no directory that is passed over or whose name
is to be skipped, and finds no file that is passed over.
-/
namespace CodeFolding

structure FoundFile where
  /-- The path from the directory that was walked, as it is reported. -/
  path : String
  extension : String
  content : ByteArray

/-- A file found at some names below the directory that is walked. -/
def FoundFile.named (below : List FileName) (content : ByteArray) : FoundFile :=
  ⟨Path.withSlashes (FileName.join below).shown, (below.getLastD []).extension, content⟩

namespace Tree

/-- Whether a walk takes a step: it leads to something that is not passed over, and if that is a
directory its name is not to be skipped. -/
def admits (passedOver : List String → Bool → Bool) (skip : NameSet) (steps : List String)
    (isDirectory : Bool) : Bool :=
  !passedOver steps isDirectory && (!isDirectory || steps.getLastD "" ∉ skip)

/-- Whether a walk from `root` gets to a file over all the directories between them. -/
def reaches (passedOver : List String → Bool → Bool) (skip : NameSet) (root below : List String) :
    Bool :=
  (List.range below.length).all fun i =>
    admits passedOver skip (root ++ below.take (i + 1)) (i + 1 < below.length)

/-- A file found at some steps below the directory that is walked. -/
def found (below : List String) (content : ByteArray) : FoundFile :=
  .named (below.map FileName.ofString) content

/-- The files that a walk from any place finds, given what it passes over. A walk from a file finds
that file, at an empty path. -/
def walkPast (t : Tree) (passedOver : List String → Bool → Bool) (skip : NameSet) :
    Place → List FoundFile
  | .directory root =>
    t.files.filterMap fun (steps, content) =>
      let below := steps.drop root.length
      if root.isPrefixOf steps && !below.isEmpty && reaches passedOver skip root below then
        some (found below content)
      else none
  | .file steps content => [⟨"", (FileName.ofString (steps.getLastD "")).extension, content⟩]

/-- The files that a walk finds which passes over what the lists of the tree say. -/
def walkFrom (t : Tree) (skip : NameSet) (place : Place) : List FoundFile :=
  t.walkPast t.isIgnored skip place

end Tree

end CodeFolding
