import CodeFolding.Block.Basic
import CodeFolding.Language
import CodeFolding.Marker
/-!
# Settings

How files are folded and which ones are. Extensions and directories are given by sets of names. A
set of names is the list of its members in ascending order, which for texts in UTF-8 is the order of
their bytes, so two sets with the same members are equal.
-/
namespace CodeFolding

/-! ## Sets of names -/

/-- Names in ascending order, each once. -/
structure NameSet where
  toList : List String
  ascending : toList.Pairwise (· < ·)
deriving DecidableEq, Repr

namespace NameSet

/-- Puts a name where it belongs in an ascending list, unless it is there already. -/
def insertIn (s : String) : List String → List String
  | [] => [s]
  | a :: rest => if s < a then s :: a :: rest else if a < s then a :: insertIn s rest else a :: rest

theorem mem_insertIn {s x : String} {l : List String} : x ∈ insertIn s l ↔ x = s ∨ x ∈ l := by
  induction l with
  | nil => simp [insertIn]
  | cons a rest ih =>
    rw [insertIn]
    split
    · simp
    · next h =>
      split
      · simp only [List.mem_cons, ih]; exact or_left_comm
      · next h' =>
        have : s = a := String.le_antisymm (String.not_lt.1 h') (String.not_lt.1 h)
        subst this; simp

theorem ascending_insertIn {s : String} {l : List String} (h : l.Pairwise (· < ·)) :
    (insertIn s l).Pairwise (· < ·) := by
  induction l with
  | nil => simp [insertIn]
  | cons a rest ih =>
    obtain ⟨ha, hr⟩ := List.pairwise_cons.1 h
    rw [insertIn]
    split
    · next hs =>
      refine List.pairwise_cons.2 ⟨fun x hx => ?_, h⟩
      rcases List.mem_cons.1 hx with rfl | hx
      · exact hs
      · exact String.lt_trans hs (ha x hx)
    · split
      · next hs =>
        refine List.pairwise_cons.2 ⟨fun x hx => ?_, ih hr⟩
        rcases mem_insertIn.1 hx with rfl | hx
        · exact hs
        · exact ha x hx
      · exact h

instance : EmptyCollection NameSet := ⟨⟨[], .nil⟩⟩

instance : Membership String NameSet := ⟨fun s x => x ∈ s.toList⟩

instance (x : String) (s : NameSet) : Decidable (x ∈ s) :=
  inferInstanceAs (Decidable (x ∈ s.toList))

def insert (s : NameSet) (x : String) : NameSet :=
  ⟨insertIn x s.toList, ascending_insertIn s.ascending⟩

def insertAll (s : NameSet) (names : List String) : NameSet := names.foldl insert s

def ofList (names : List String) : NameSet := (∅ : NameSet).insertAll names

def isEmpty (s : NameSet) : Bool := s.toList.isEmpty

@[simp] theorem mem_insert {s : NameSet} {x y : String} : y ∈ s.insert x ↔ y = x ∨ y ∈ s :=
  mem_insertIn

theorem mem_insertAll {s : NameSet} {names : List String} {y : String} :
    y ∈ s.insertAll names ↔ y ∈ names ∨ y ∈ s := by
  induction names generalizing s with
  | nil => simp [insertAll]
  | cons a names ih =>
    have h := ih (s := s.insert a)
    simp only [insertAll, List.foldl_cons] at h ⊢
    rw [h, mem_insert, List.mem_cons, ← or_assoc, or_comm (a := y ∈ names)]

end NameSet

/-! ## Settings -/

/-- Directories that hold nothing to fold in most projects. -/
def defaultSkipDirs : NameSet :=
  NameSet.ofList [".git", "node_modules", "target", "build", "out", ".gradle", ".idea"]

/-- How files are folded and which files of a project are. -/
structure Settings where
  layout : Layout := {}
  /-- The phrase that switches folding on for a file. -/
  activation : Text := activationMarker
  markers : MarkerPair := {}
  /-- Whether files without the phrase are left alone. -/
  requireActivation : Bool := true
  /-- Extensions of the files to fold; if there are none, those of all languages with braces. -/
  extensions : NameSet := ∅
  /-- Names of directories that are not entered. -/
  skipDirs : NameSet := defaultSkipDirs
deriving DecidableEq, Repr

/-- Whether files with an extension are folded, given the extensions that were asked for. -/
def foldsExtension (extensions : NameSet) (ext : String) : Bool :=
  if extensions.isEmpty then Language.ofExtension ext == .braces else ext ∈ extensions

end CodeFolding
