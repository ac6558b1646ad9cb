import CompileIndex.Command.Entry
import CompileIndex.EditorMode

/-!
# Sorted arguments

The arguments behind the compiler fall into classes by how they start.  An option starts with
the mark of the compiler's option syntax; what starts otherwise is an operand and is dropped.

* `OptionSyntax.classify` — the class of one argument;
* `CompileCommand.sorted` — include paths, definitions, standard and passed-through options of
  a command, in one pass.
-/

namespace CompileIndex

/-- How a compiler marks its options. -/
inductive OptionSyntax where
  /-- With a slash, as `cl` does. -/
  | slash
  /-- With a dash, as all others do. -/
  | dash
  deriving DecidableEq, Repr

namespace OptionSyntax

/-- The character in front of every option. -/
def mark : OptionSyntax → Char
  | slash => '/'
  | dash => '-'

/-- The syntax that a command's compiler uses. -/
def ofCommand (c : CompileCommand) : OptionSyntax :=
  if CompilerFamily.lowered c.compilerBaseName = ['c', 'l'] then slash else dash

end OptionSyntax

/-- What one argument is. -/
inductive ArgumentClass where
  | operand
  | includePath (path : List Char)
  | definition (text : List Char)
  | standard (text : List Char)
  | output
  | passed
  deriving DecidableEq, Repr

/-- A text without its first `n` bytes; none when it is shorter or a character straddles the
cut. -/
def dropBytes? : Nat → List Char → Option (List Char)
  | 0, cs => some cs
  | _ + 1, [] => none
  | n + 1, c :: cs => if c.utf8Size ≤ n + 1 then dropBytes? (n + 1 - c.utf8Size) cs else none

/-- The spelling of a standard in a standard option: what stands behind the first five bytes,
or nothing. -/
def standardText (argument : List Char) : List Char :=
  (dropBytes? 5 argument).getD []

/-- The class of an argument. -/
def OptionSyntax.classify (o : OptionSyntax) (argument : List Char) : ArgumentClass :=
  match argument with
  | [] => .operand
  | c :: rest =>
    if c = o.mark then
      match rest with
      | 'I' :: path => .includePath path
      | 'D' :: text => .definition text
      | 's' :: 't' :: 'd' :: _ => .standard (standardText argument)
      | 'o' :: _ => .output
      | _ => .passed
    else .operand

/-- The arguments of a command, sorted. -/
structure SortedArguments where
  /-- Include paths in order, made absolute. -/
  includePaths : List String
  /-- Definitions in order, such as `NAME` or `NAME=1`. -/
  definitions : List String
  /-- The spelling in the first standard option. -/
  standard : Option String
  /-- All other options except those that name an output. -/
  passed : List String
  deriving DecidableEq, Repr

namespace SortedArguments

/-- No argument. -/
def empty : SortedArguments :=
  ⟨[], [], none, []⟩

/-- One argument more. -/
def add (o : OptionSyntax) (directory : Path) (done : SortedArguments) (argument : String) :
    SortedArguments :=
  match o.classify argument.toList with
  | .operand => done
  | .includePath path =>
    { done with
      includePaths := done.includePaths ++ [(directory.resolve ⟨String.ofList path⟩).text] }
  | .definition text => { done with definitions := done.definitions ++ [String.ofList text] }
  | .standard text =>
    match done.standard with
    | none => { done with standard := some (String.ofList text) }
    | some _ => done
  | .output => done
  | .passed => { done with passed := done.passed ++ [argument] }

end SortedArguments

/-- The arguments of a command behind its compiler, sorted. -/
def CompileCommand.sorted (c : CompileCommand) : SortedArguments :=
  (c.arguments.drop 2).foldl (SortedArguments.add (.ofCommand c) c.directory) .empty

end CompileIndex
