import CodeFolding.Tree.Path
/-!
# Trees of files

A tree is what is known of a file system: files with their bytes, directories, and the directory
that paths start from. There is one way to everything: no file or directory stands in two
directories, and nothing is a link. All names are texts; what other names are reported as is said of
their bytes alone (`FileName.shown`).
-/
namespace CodeFolding

inductive ReadError where
  | notFound
  | notDirectory
  | isDirectory
  /-- The bytes are no UTF-8. -/
  | notText
  /-- The path holds the character that ends paths. -/
  | nulInPath
deriving DecidableEq, Repr

def ReadError.message : ReadError → String
  | notFound => "No such file or directory (os error 2)"
  | notDirectory => "Not a directory (os error 20)"
  | isDirectory => "Is a directory (os error 21)"
  | notText => "stream did not contain valid UTF-8"
  | nulInPath => "file name contained an unexpected NUL byte"

/-- Files and directories by the steps that lead to them from the root. The directories on the way
to a file need not be listed. -/
structure Tree where
  files : List (List String × ByteArray) := []
  directories : List (List String) := []
  /-- The directory that relative paths start from. -/
  working : List String := []
  /-- How the path of that directory is written. -/
  workingPath : String := ""

inductive Place where
  | file (steps : List String) (content : ByteArray)
  | directory (steps : List String)

def Place.steps : Place → List String
  | file steps _ => steps
  | directory steps => steps

namespace Tree

def file? (t : Tree) (steps : List String) : Option ByteArray := t.files.lookup steps

/-- Whether steps lead to a directory: the root, one that is listed, or one on the way to something
that is. -/
def isDirectory (t : Tree) (steps : List String) : Bool :=
  steps.isEmpty || t.directories.any steps.isPrefixOf ||
    t.files.any fun f => steps.isPrefixOf f.1 && steps != f.1

def at? (t : Tree) (steps : List String) : Option Place :=
  match t.file? steps with
  | some content => some (.file steps content)
  | none => if t.isDirectory steps then some (.directory steps) else none

/-- Takes one more part of a path. Every part needs a directory to start from; above the root is
the root. -/
def follow (t : Tree) (place : Place) (part : String) : Except ReadError Place :=
  match place with
  | .file .. => .error .notDirectory
  | .directory steps =>
    if part = "" || part = "." then .ok place
    else if part = ".." then .ok (.directory steps.dropLast)
    else match t.at? (steps ++ [part]) with
      | some place => .ok place
      | none => .error .notFound

/-- What a path leads to. The empty path leads nowhere. -/
def resolve (t : Tree) (p : String) : Except ReadError Place :=
  if p.toList.contains '\x00' then .error .nulInPath
  else if p.isEmpty then .error .notFound
  else (Path.parts p).foldlM t.follow (.directory (if Path.isAbsolute p then [] else t.working))

/-- How the full path of a place is written. -/
def fullPath (t : Tree) (steps : List String) : String :=
  if t.working.isPrefixOf steps then Path.join (t.workingPath :: steps.drop t.working.length)
  else "/" ++ Path.join steps

def exists? (t : Tree) (p : String) : Bool := (t.resolve p).isOk

/-- The text of bytes in UTF-8. -/
def textOf? (content : ByteArray) : Option Text := (String.fromUTF8? content).map String.toList

def readText (t : Tree) (p : String) : Except ReadError Text := do
  match ← t.resolve p with
  | .file _ content =>
    match textOf? content with
    | some text => .ok text
    | none => .error .notText
  | _ => .error .isDirectory

end Tree

end CodeFolding
