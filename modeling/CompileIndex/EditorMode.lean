/-!
# Editor modes

An editor's mode is a compiler family together with an architecture.  Only the names `msvc`,
`gcc` and `clang`, in upper or lower case, name a family; only the label `x86` names a
32-bit architecture.  A compiler of no family gets the mode `msvc-x86`, whatever its
architecture.
-/

namespace CompileIndex

/-- A family of compilers. -/
inductive CompilerFamily where
  | msvc | gcc | clang
  deriving DecidableEq, Repr

namespace CompilerFamily

/-- How a family is spelled. -/
def text : CompilerFamily → String
  | msvc => "msvc"
  | gcc => "gcc"
  | clang => "clang"

/-- All families. -/
def all : List CompilerFamily := [msvc, gcc, clang]

/-- A text with the letters `A` to `Z` in lower case.  No other character has a letter of a
family's name as its lower case. -/
def lowered (name : String) : List Char :=
  name.toList.map Char.toLower

/-- The family that a compiler's name, without directories and extension, names. -/
def ofName? (name : String) : Option CompilerFamily :=
  all.find? fun f => f.text.toList = lowered name

end CompilerFamily

/-- An architecture. -/
inductive Architecture where
  | x86 | x64 | arm | arm64
  deriving DecidableEq, Repr

namespace Architecture

/-- How an architecture is spelled. -/
def text : Architecture → String
  | x86 => "x86"
  | x64 => "x64"
  | arm => "arm"
  | arm64 => "arm64"

/-- All architectures. -/
def all : List Architecture := [x86, x64, arm, arm64]

/-- The architecture that a label stands for: `x86` is itself, every other label is `x64`. -/
def ofLabel (label : String) : Architecture :=
  if label = "x86" then x86 else x64

end Architecture

/-- The mode of an editor. -/
structure EditorMode where
  family : CompilerFamily
  architecture : Architecture
  deriving DecidableEq, Repr

namespace EditorMode

/-- How a mode is spelled. -/
def text (m : EditorMode) : String :=
  m.family.text ++ "-" ++ m.architecture.text

/-- All modes. -/
def all : List EditorMode :=
  CompilerFamily.all.flatMap fun f => Architecture.all.map fun a => ⟨f, a⟩

/-- The mode of a compiler of no known family. -/
def fallback : EditorMode := ⟨.msvc, .x86⟩

/-- The mode for a compiler's name and an architecture's label. -/
def resolve (compiler label : String) : EditorMode :=
  match CompilerFamily.ofName? compiler with
  | some family => ⟨family, .ofLabel label⟩
  | none => fallback

/-- All spellings with their modes. -/
def words : List (String × EditorMode) :=
  all.map fun m => (m.text, m)

end EditorMode

end CompileIndex
