import CodeFolding.Settings.Basic
import CodeFolding.Toml.Value
/-!
# Settings from a table

A table changes the settings whose keys it has. A value that does not suit its key changes nothing
and gives a warning, and so does a key that is not known. For such a key a known one is proposed, if
few bytes must be inserted, deleted or replaced to get it.
-/
namespace CodeFolding

inductive SettingKey where
  | tabSize
  | startOffset
  | activationMarker
  | startMarker
  | endMarker
  | requireActivation
  | extensions
  | skipDirs
deriving DecidableEq, Repr

namespace SettingKey

/-- All keys, in the order in which a table is read. -/
def all : List SettingKey :=
  [tabSize, startOffset, activationMarker, startMarker, endMarker, requireActivation, extensions,
    skipDirs]

def name : SettingKey → String
  | tabSize => "tab_size"
  | startOffset => "start_offset"
  | activationMarker => "activation_marker"
  | startMarker => "start_marker"
  | endMarker => "end_marker"
  | requireActivation => "require_activation"
  | extensions => "extensions"
  | skipDirs => "skip_dirs"

def names : List String := all.map name

end SettingKey

/-- The file that holds the settings of a directory. -/
def settingsFile : String := ".indentfold.toml"

/-- Why a setting is not what its file says. -/
inductive Warning where
  /-- A key that is not known, with a known one that is close to it. -/
  | unknownKey (key : String) (suggestion : Option String)
  /-- A tab size below one or of another type; the present one is kept. -/
  | tabSize (kept : Nat)
  | startOffset
  /-- An empty marker or one that is no string. -/
  | marker (key : SettingKey)
  | requireActivation
  | unreadable
  | malformed
deriving DecidableEq, Repr

namespace Warning

def message : Warning → String
  | unknownKey _ (some suggestion) =>
    "Unknown key in " ++ settingsFile ++ ": did you mean '" ++ suggestion ++ "'?"
  | unknownKey _ none =>
    "Unknown key in " ++ settingsFile ++
      " (known keys: " ++ ", ".intercalate SettingKey.names ++ ")"
  | tabSize kept => "tab_size must be a positive integer, keeping " ++ toString kept
  | startOffset => "start_offset must be \"line-start\" or \"skip-indent\""
  | marker _ => "Marker must be a non-empty string"
  | requireActivation => "require_activation must be a boolean"
  | unreadable => "Could not read " ++ settingsFile
  | malformed => "Failed to parse " ++ settingsFile

/-- The key a warning names beside its text. -/
def key? : Warning → Option String
  | unknownKey key _ => some key
  | marker key => some key.name
  | _ => none

/-- The key a warning proposes. -/
def suggestion? : Warning → Option String
  | unknownKey _ suggestion => suggestion
  | _ => none

end Warning

/-! ## Edit distance -/

section EditDistance

variable {α : Type} [BEq α]

/-- The cells of a row behind its first one, for one more item `x` of the first list. Each cell
looks at the cell above it, the one left of that and the one on its own left. -/
def nextCells (x : α) : List α → (corner : Nat) → (above : List Nat) → (left : Nat) → List Nat
  | y :: ys, corner, up :: above, left =>
    let cell := min (min (up + 1) (left + 1)) (corner + if x == y then 0 else 1)
    cell :: nextCells x ys up above cell
  | _, _, _, _ => []

/-- The row for one more item of the first list. A row holds the distances of a prefix of the first
list to all prefixes of the second. -/
def nextRow (ys : List α) (row : List Nat) (x : α) : List Nat :=
  match row with
  | corner :: above => (corner + 1) :: nextCells x ys corner above (corner + 1)
  | [] => []

/-- The least number of insertions, deletions and replacements that turn `xs` into `ys`. -/
def editDistance (xs ys : List α) : Nat :=
  (xs.foldl (nextRow ys) (List.range (ys.length + 1))).getLastD 0

end EditDistance

/-! ## Keys that are not known -/

/-- Edits between two keys, byte by byte. -/
def keyDistance (a b : String) : Nat := editDistance a.toUTF8.toList b.toUTF8.toList

/-- Edits up to which a known key is proposed. -/
def suggestionDistance : Nat := 3

/-- The nearer of two candidates with their distances, the first one if both are as near. -/
def nearer (best : Option (Nat × String)) (c : Nat × String) : Option (Nat × String) :=
  match best with
  | some b => if c.1 < b.1 then some c else some b
  | none => some c

/-- The first of the known keys that are nearest, if it is near enough. -/
def suggestion? (key : String) : Option String :=
  match (SettingKey.names.map fun k => (keyDistance key k, k)).foldl nearer none with
  | some (d, k) => if d ≤ suggestionDistance then some k else none
  | none => none

/-- The warnings for the keys of a table that are not known. -/
def unknownKeys (t : Toml.Entries) : List Warning :=
  ((t.map Prod.fst).filter fun k => !SettingKey.names.contains k).map fun k =>
    .unknownKey k (suggestion? k)

/-! ## Keys that are known -/

/-- The strings among the items of an array; nothing if the value is no array. -/
def namesOf (v : Toml.Value) : Option (List String) :=
  v.items?.map (·.filterMap Toml.Value.string?)

/-- An extension without the dots in front of it. -/
def bareExtension (ext : String) : String := String.ofList (ext.toList.dropWhile (· == '.'))

/-- The text of a marker. It must not be empty. -/
def markerOf (key : SettingKey) (v : Toml.Value) : Except Warning Text :=
  match v.string? with
  | some m => if m.isEmpty then .error (.marker key) else .ok m.toList
  | none => .error (.marker key)

/-- The settings with a value given to a key, or why the value is refused. Lists of extensions
replace the present one, lists of directories extend it; what is no list, or is in a list and no
string, counts for nothing. -/
def Settings.set (s : Settings) (key : SettingKey) (v : Toml.Value) : Except Warning Settings :=
  match key with
  | .tabSize =>
    match v.integer? with
    | some n => if 1 ≤ n then .ok { s with layout.tabSize := n.toNat }
      else .error (.tabSize s.layout.tabSize)
    | none => .error (.tabSize s.layout.tabSize)
  | .startOffset =>
    match v.string?.bind RegionStart.ofName? with
    | some p => .ok { s with layout.regionStart := p }
    | none => .error .startOffset
  | .activationMarker => (markerOf key v).map fun m => { s with activation := m }
  | .startMarker => (markerOf key v).map fun m => { s with markers.opening := m }
  | .endMarker => (markerOf key v).map fun m => { s with markers.closing := m }
  | .requireActivation =>
    match v.boolean? with
    | some b => .ok { s with requireActivation := b }
    | none => .error .requireActivation
  | .extensions =>
    match namesOf v with
    | some names => .ok { s with extensions := NameSet.ofList (names.map bareExtension) }
    | none => .ok s
  | .skipDirs =>
    match namesOf v with
    | some names => .ok { s with skipDirs := s.skipDirs.insertAll names }
    | none => .ok s

/-- Reads one key of a table, if the table has it. -/
def Settings.readKey (t : Toml.Entries) (found : Settings × List Warning) (key : SettingKey) :
    Settings × List Warning :=
  match t.get? key.name with
  | none => found
  | some v =>
    match found.1.set key v with
    | .ok s => (s, found.2)
    | .error w => (found.1, found.2 ++ [w])

/-- The settings with the keys of a table merged in, and the warnings in order. -/
def Settings.merge (s : Settings) (t : Toml.Entries) : Settings × List Warning :=
  SettingKey.all.foldl (Settings.readKey t) (s, unknownKeys t)

end CodeFolding
