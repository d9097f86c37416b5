import CodeFolding.FoldedFile
import CodeFolding.Json.Pretty
import CodeFolding.FoldedProject
/-!
# Reports

What commands print, as lines for readers and as documents for programs.
-/
namespace CodeFolding

/-! ## Columns -/

def padStart (width : Nat) (s : String) : String :=
  String.ofList (List.replicate (width - s.length) ' ') ++ s

def padEnd (width : Nat) (s : String) : String :=
  s ++ String.ofList (List.replicate (width - s.length) ' ')

/-- A line for a region. Lines count from 1 for readers. -/
def Region.line (r : Region) : String :=
  padStart 5 (toString (r.startLine + 1)) ++ " - " ++ padEnd 5 (toString (r.endLine + 1)) ++ " " ++
    padStart 7 (toString r.startOffset) ++ ".." ++ padEnd 7 (toString r.endOffset) ++ " " ++
    String.ofList r.placeholder ++ "\n"

def regionLines (regions : List Region) : String := String.join (regions.map Region.line)

def FoldedFile.line (f : FoldedFile) : String :=
  padEnd 60 f.path ++ " " ++ padStart 4 (toString f.methodCount) ++ " methods " ++
    padStart 5 (toString f.regions.length) ++ " regions\n"

/-- A line for a method and the lines of it that are scanned. -/
def Method.line (m : Method) (scanned : LineRange) : String :=
  "  " ++ padEnd 30 (String.ofList m.name) ++
    " body " ++ toString (m.openLine + 1) ++ "-" ++ toString (m.closeLine + 1) ++
    "  scan " ++ toString (scanned.first + 1) ++ "-" ++ toString (scanned.last + 1) ++ "\n"

/-! ## Documents -/

def Region.toJson (r : Region) : JsonValue :=
  .object [("start_offset", .number r.startOffset), ("end_offset", .number r.endOffset),
    ("placeholder", .string (String.ofList r.placeholder)), ("start_line", .number r.startLine),
    ("end_line", .number r.endLine)]

def FoldedFile.toJson (f : FoldedFile) : JsonValue :=
  .object [("path", .string f.path), ("activated", .bool f.activated),
    ("units", .number f.methodCount), ("regions", .array (f.regions.map Region.toJson))]

def FoldedProject.toJson (root : String) (milliseconds : Nat) (r : FoldedProject) : JsonValue :=
  .object [("root", .string root), ("files_scanned", .number r.filesScanned),
    ("files_activated", .number r.filesActivated), ("region_count", .number r.regionCount),
    ("files", .array (r.files.map FoldedFile.toJson)), ("scan_time_ms", .number milliseconds)]

def Method.toJson (s : Settings) (m : Method) : JsonValue :=
  let isMarked := fun (c : LineComment) =>
    Text.holds s.markers.opening c.text || Text.holds s.markers.closing c.text
  let scanned := s.scanned m
  .object [("close_line", .number m.closeLine), ("header_line", .number m.headerLine),
    ("markers", .number (m.comments.countP isMarked)), ("name", .string (String.ofList m.name)),
    ("open_line", .number m.openLine),
    ("scan", .object [("end", .number scanned.last), ("start", .number scanned.first)])]

def Survey.toJson (s : Settings) (path : String) (v : Survey) : JsonValue :=
  .object [("activated", .bool (v.isSwitchedOn s)), ("doc_comments", .number v.docComments.length),
    ("family", .string v.language.name), ("path", .string path),
    ("units", .array (v.methods.map (Method.toJson s)))]

def Survey.toLines (s : Settings) (path : String) (v : Survey) : String :=
  "File:       " ++ path ++ "\n" ++
  "Family:     " ++ v.language.title ++ "\n" ++
  "Activated:  " ++ toString (v.isSwitchedOn s) ++ "\n" ++
  "Doc blocks: " ++ toString v.docComments.length ++ "\n\nMethods:\n" ++
  String.join (v.methods.map fun m => m.line (s.scanned m))

end CodeFolding
