import CodeFolding.Settings.Merge
import CodeFolding.Toml.Parser
import CodeFolding.Tree.Basic
/-!
# Settings of a project
-/
namespace CodeFolding

/-- A project: the directory its files are in, and how they are folded. -/
structure Project where
  root : String
  settings : Settings := {}
deriving DecidableEq, Repr

/-- The project with the keys of a table merged into its settings, and the warnings in order. -/
def Project.merge (p : Project) (t : Toml.Entries) : Project × List Warning :=
  let (s, warnings) := p.settings.merge t
  ({ p with settings := s }, warnings)

namespace Tree

/-- The table in a file of settings. A missing file has an empty one; a file that cannot be read or
is no document has none. -/
def settingsTable (t : Tree) (path : String) : Except Warning Toml.Entries :=
  if t.exists? path then
    match t.readText path with
    | .error _ => .error .unreadable
    | .ok text =>
      match Toml.parse text with
      | none => .error .malformed
      | some entries => .ok entries
  else .ok []

/-- The settings that a file holds, with the warnings it gives. Without a table every setting is
left as it is by default. -/
def loadSettings (t : Tree) (path : String) : Settings × List Warning :=
  match t.settingsTable path with
  | .error w => ({}, [w])
  | .ok entries => ({} : Settings).merge entries

/-- The project in a directory, with the settings that a file holds. -/
def loadProject (t : Tree) (root path : String) : Project × List Warning :=
  match t.settingsTable path with
  | .error w => ({ root }, [w])
  | .ok entries => ({ root } : Project).merge entries

end Tree

/-- The path of the settings in a directory. -/
def settingsIn (steps : List String) : String := Path.join (steps ++ [settingsFile])

end CodeFolding
