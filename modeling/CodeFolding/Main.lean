import CodeFolding.Command.Run
/-!
# The program

Reads the part of the file system that a command line asks about, runs the command on it and prints
what the command leaves behind.
-/
namespace CodeFolding.Main

/-- What is known of the file system once the file or directory at some steps from its root is
looked at. -/
def look (steps : List String) (t : Tree) : IO Tree := do
  let path := (← IO.currentDir) / ("/" ++ Path.join steps)
  if ← path.isDir then return { t with directories := steps :: t.directories }
  else if (t.file? steps).isSome then return t
  else
    match ← (IO.FS.readBinFile path).toBaseIO with
    | .ok content => return { t with files := (steps, content) :: t.files }
    | .error _ => return t

/-- Looks at every place that a path passes. -/
def lookAlong (path : String) (t : Tree) : IO Tree := do
  let start := if Path.isAbsolute path then [] else t.working
  let (_, t) ← (Path.steps path).foldlM (fun ((steps, t) : List String × Tree) part => do
    let steps := if part = ".." then steps.dropLast else steps ++ [part]
    return (steps, ← look steps t)) (start, t)
  return t

/-- Looks at everything below a directory. -/
partial def lookBelow (steps : List String) (t : Tree) : IO Tree := do
  let t ← look steps t
  let path := (← IO.currentDir) / ("/" ++ Path.join steps)
  if ← path.isDir then
    (← path.readDir).foldlM (fun t entry => lookBelow (steps ++ [entry.fileName]) t) t
  else return t

/-- Looks at the lists of patterns in the directories around some steps. -/
def lookAround (steps : List String) (t : Tree) : IO Tree :=
  (Path.enclosing steps).foldlM (fun t directory =>
    [[".ignore"], [".gitignore"], [".git"], [".git", "info", "exclude"]].foldlM
      (fun t list => look (directory ++ list) t) t) t

/-- The tree as far as a command looks at it. -/
def treeFor (c : Command) : IO Tree := do
  let here := (← IO.currentDir).toString
  let t : Tree := { working := Path.steps here, workingPath := here }
  let (paths, walked) := c.inputs
  let t ← paths.foldlM (fun t path => lookAlong path t) t
  match walked with
  | none => return t
  | some path =>
    let t ← lookAlong path t
    match t.resolve path with
    | .ok place => lookBelow place.steps (← lookAround place.steps t)
    | .error _ => return t

/-- Runs a command line and gives its code. -/
def run (arguments : List String) : IO UInt32 := do
  let begun ← IO.monoMsNow
  let tree ← match Command.parse arguments false with
    | some (.run _ command) => treeFor command
    | _ => pure {}
  let printed := Command.run tree ((← IO.monoMsNow) - begun) arguments
  (← IO.getStdout).putStr printed.out
  (← IO.getStderr).putStr printed.err
  return printed.code.toUInt32

end CodeFolding.Main

def main (arguments : List String) : IO UInt32 := CodeFolding.Main.run arguments
