import CodeFolding.Command.Arguments
import CodeFolding.Command.Report
import CodeFolding.Regex.Parser
import CodeFolding.Settings.Load
/-!
# Running commands

A command is run on a tree of files. It prints to two channels and ends with a code: 0 if it has
done its work, 1 if it could not, 2 if the command line is not well formed.
-/
namespace CodeFolding

/-- What a command leaves behind. -/
structure Printed where
  code : Nat
  out : String
  err : String
deriving DecidableEq, Repr

namespace Printed

def done (out err : String) : Printed := ⟨0, out, err⟩

/-- A document, and nothing beside it. -/
def document (v : JsonValue) : Printed := done (v.pretty ++ "\n") ""

def failed (message : String) : Printed := ⟨1, "", message ++ "\n"⟩

end Printed

def Settings.override (s : Settings) (o : Overrides) : Settings :=
  { s with
    layout :=
      { tabSize := (o.tabSize.map (max · 1)).getD s.layout.tabSize
        regionStart := if o.skipIndent then .skipIndent else s.layout.regionStart }
    requireActivation := s.requireActivation && !o.noGate }

/-- The paths of the settings that a file may have, by the text of its own path: in the directory
that its text puts it in, in the one that this directory's text puts it in, and so on. -/
def Path.settingsCandidates (p : String) : List String :=
  (enclosing (steps p)).map fun directory =>
    (if isAbsolute p then "/" else "") ++ settingsIn directory

namespace Tree

/-- The settings of a file: those of the first candidate that is there. -/
def settingsFor (t : Tree) (file : String) : Settings :=
  match (Path.settingsCandidates file).find? t.exists? with
  | some path => (t.loadSettings path).1
  | none => {}

/-- The text and the extension of a file, or why it cannot be read. -/
def source (t : Tree) (file : String) : Except String (Text × String) :=
  match t.readText file with
  | .ok text => .ok (text, Path.extension file)
  | .error e => .error ("Could not read " ++ file ++ ": " ++ e.message)

def withSource (t : Tree) (file : String) (run : Text → String → Printed) : Printed :=
  match t.source file with
  | .ok (text, ext) => run text ext
  | .error message => .failed message

end Tree

namespace Command

def runFold (t : Tree) (json : Bool) (file : String) (o : Overrides) : Printed :=
  let s := (t.settingsFor file).override o
  t.withSource file fun text ext =>
    let folds := foldText s file text ext
    if json then .document folds.toJson
    else if folds.activated then
      .done (regionLines folds.regions) ("\n" ++ toString folds.regions.length ++ " regions in " ++
        toString folds.methodCount ++ " methods\n")
    else .failed (file ++ ": not activated (no '" ++ String.ofList s.activation ++ "' doc comment)")

/-- Finds the blocks in a range of lines. -/
def runLines (t : Tree) (json : Bool) (file : String) (r : LineRange) (o : Overrides) : Printed :=
  let s := (t.settingsFor file).override o
  t.withSource file fun text ext =>
    let survey := Survey.ofText (Language.ofExtension ext) text
    let regions := s.layout.regions (.ofText text) r survey.isComment
    if json then .document (.array (regions.map Region.toJson))
    else .done (regionLines regions) ("\n" ++ toString regions.length ++ " regions\n")

def runOutline (t : Tree) (json : Bool) (file : String) : Printed :=
  let s := t.settingsFor file
  t.withSource file fun text ext =>
    let survey := Survey.ofText (Language.ofExtension ext) text
    if json then .document (survey.toJson s file) else .done (survey.toLines s file) ""

/-- The path filter that a regular expression writes; without one every path is accepted. -/
def filter? : Option String → Option (String → Bool)
  | none => some fun _ => true
  | some pattern => (Regex.parse pattern.toList).map fun r path => r.matchesIn path.toList

def runScan (t : Tree) (milliseconds : Nat) (json : Bool) (root pattern : Option String)
    (limit : Nat) (o : Overrides) : Printed :=
  let path := root.getD "."
  match t.resolve path with
  | .error e => .failed ("Path '" ++ path ++ "' not found: " ++ e.message)
  | .ok place =>
    let project := (t.loadProject (t.fullPath place.steps) (path ++ "/" ++ settingsFile)).1
    let s := project.settings.override o
    match filter? pattern with
    | none => .failed "Invalid filter"
    | some filter =>
      let folded := s.foldAll filter (t.walkFrom s.skipDirs place)
      if json then .document (folded.toJson project.root milliseconds)
      else if folded.files.isEmpty then .failed ("No activated files under " ++ project.root)
      else
        .done (String.join ((folded.files.take limit).map FoldedFile.line))
          ("\n" ++ toString folded.regionCount ++ " regions in " ++
            toString folded.filesActivated ++ " activated files (" ++
            toString folded.filesScanned ++ " scanned, " ++ toString milliseconds ++ "ms)\n")

/-- The paths that a command looks at, and the directory it walks. -/
def inputs : Command → List String × Option String
  | .fold file _ | .lines file _ _ | .outline file => (file :: Path.settingsCandidates file, none)
  | .scan root .. =>
    let path := root.getD "."
    ([path ++ "/" ++ settingsFile], some path)

def versionLine : String := "indentfold 0.3.0\n"

def usage : String :=
  "Usage: indentfold [--json] <fold FILE|lines FILE --start N --end N|outline FILE|scan> " ++
    "[OPTIONS]\n"

/-- Runs a command line on a tree. Finding its files has taken some milliseconds. -/
def run (t : Tree) (milliseconds : Nat) (arguments : List String) : Printed :=
  match parse arguments false with
  | none => ⟨2, "", usage⟩
  | some .version => .done versionLine ""
  | some .help => .done usage ""
  | some (.run json command) =>
    match command with
    | .fold file o => runFold t json file o
    | .lines file r o => runLines t json file r o
    | .outline file => runOutline t json file
    | .scan root pattern limit o => runScan t milliseconds json root pattern limit o

end Command

end CodeFolding
