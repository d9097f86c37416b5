import CodeFolding.Block.Search
import CodeFolding.Survey
import CodeFolding.Settings.Basic
/-!
# Folding a file

Only methods are folded, so only files in a language with braces have folds, and of these only the
files that are activated.
-/
namespace CodeFolding

structure FoldedFile where
  path : String
  activated : Bool
  methodCount : Nat
  regions : List Region
deriving DecidableEq, Repr

/-- Whether the first documentation of a file switches folding on, or nothing has to. -/
def Survey.isSwitchedOn (v : Survey) (s : Settings) : Bool :=
  !s.requireActivation || v.docComments.head?.any (Text.holds s.activation)

/-- The lines of a method in which blocks are looked for. -/
def Settings.scanned (s : Settings) (m : Method) : LineRange := s.markers.narrow m.comments m.body

/-- The folds of a file with the given content and extension. The path is only reported. -/
def foldText (s : Settings) (path : String) (t : Text) (ext : String) : FoldedFile :=
  let lang := Language.ofExtension ext
  if lang = .braces then
    let v := Survey.ofText lang t
    if v.isSwitchedOn s then
      let src := LineReader.ofText t
      ⟨path, true, v.methods.length,
        v.methods.flatMap fun m => s.layout.regions src (s.scanned m) v.isComment⟩
    else ⟨path, false, v.methods.length, []⟩
  else ⟨path, false, 0, []⟩

end CodeFolding
