import CodeFolding.Text.Basic
/-!
# Languages

A file's extension says which of three families its language belongs to. The family fixes how
comments are written and whether methods have bodies in braces.
-/
namespace CodeFolding

/-- A family of languages. -/
inductive Language where
  /-- Bodies stand in braces. -/
  | braces
  /-- Bodies are indented. -/
  | indentation
  /-- Nothing is known about bodies. -/
  | other
deriving DecidableEq, Repr

structure CommentStyle where
  /-- What a comment that runs to the end of its line may begin with. -/
  line : List Text
  /-- What a comment over several lines begins and ends with. -/
  block : Option (Text × Text)
  /-- What a block comment begins with if it is documentation. -/
  doc : Option Text
deriving DecidableEq, Repr

namespace Language

def braceExtensions : List String :=
  ["h", "hpp", "hxx", "cpp", "cxx", "cc", "c", "cs", "java", "kt", "scala", "rs", "go", "js", "ts",
    "jsx", "tsx", "mjs", "cjs", "swift", "groovy", "dart", "php"]

def indentExtensions : List String := ["py", "pyi", "rb", "yaml", "yml"]

/-- The family of an extension, which is written without its dot. -/
def ofExtension (ext : String) : Language :=
  if braceExtensions.contains ext then braces
  else if indentExtensions.contains ext then indentation
  else other

def comments : Language → CommentStyle
  | braces => ⟨[['/', '/']], some (['/', '*'], ['*', '/']), some ['/', '*', '*']⟩
  | indentation => ⟨[['#']], none, none⟩
  | other => ⟨[['#'], ['/', '/']], none, none⟩

/-- The name of a family in structured output. -/
def name : Language → String
  | braces => "brace-based"
  | indentation => "indent-based"
  | other => "unknown"

/-- The name of a family in printed output. -/
def title : Language → String
  | braces => "BraceBased"
  | indentation => "IndentBased"
  | other => "Unknown"

end Language

end CodeFolding
