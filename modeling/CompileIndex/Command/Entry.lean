import CompileIndex.Path

/-!
# Compile commands

How one source file is compiled: the working directory, the file, and the arguments.  The
argument at position 0 is a placeholder, the one at position 1 is the compiler.
-/

namespace CompileIndex

/-- How one source file is compiled. -/
structure CompileCommand where
  directory : Path
  file : Path
  arguments : List String
  deriving DecidableEq, Repr

namespace CompileCommand

/-- The path under which the file is indexed. -/
def absoluteFile (c : CompileCommand) : Path :=
  c.directory.resolve c.file

/-- The compiler as it is called; empty when there is none. -/
def compiler (c : CompileCommand) : String :=
  (c.arguments[1]?).getD ""

/-- Whether a character separates the directories of a compiler's path. -/
def isSeparator (c : Char) : Bool :=
  c = '/' || c = '\\'

/-- The characters behind the last separator. -/
def lastName (cs : List Char) : List Char :=
  (cs.reverse.takeWhile fun c => !isSeparator c).reverse

/-- A name up to its last dot, unless that dot is its first character. -/
def dropExtension (name : List Char) : List Char :=
  match name.reverse.dropWhile (· ≠ '.') with
  | '.' :: before => if before.isEmpty then name else before.reverse
  | _ => name

/-- The compiler without directories; both kinds of separators count. -/
def compilerFileName (c : CompileCommand) : String :=
  String.ofList (lastName c.compiler.toList)

/-- The compiler without directories and extension. -/
def compilerBaseName (c : CompileCommand) : String :=
  String.ofList (dropExtension (lastName c.compiler.toList))

end CompileCommand

end CompileIndex
