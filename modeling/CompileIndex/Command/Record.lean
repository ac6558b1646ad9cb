import CompileIndex.Command.Entry
import CompileIndex.Json.Value
import CompileIndex.ShellWords

/-!
# Records of a compilation database

One record is judged alone.  It is an object with the strings `directory` and `file` and the
arguments, either as the list `arguments` or, when there is no such member, as the text
`command`, which is split into words and gets a placeholder in front.  The checks run in this
order: object, directory, file, arguments, position of the compiler; the first that fails
names the malformation.
-/

namespace CompileIndex

/-- Why a record is not a compile command. -/
inductive Malformation where
  | notObject (found : String)
  | missingField (field : String)
  | wrongType (field wanted found : String)
  | nonStringArgument (position : Nat)
  | unsplittableCommand
  | missingCompiler (length : Nat)
  deriving DecidableEq, Repr

/-- The wording of a malformation. -/
def Malformation.message : Malformation → String
  | notObject found => "record is not an object (found " ++ found ++ ")"
  | missingField field => "field '" ++ field ++ "' is missing"
  | wrongType field wanted found =>
    "field '" ++ field ++ "' must be " ++ wanted ++ ", found " ++ found
  | nonStringArgument position =>
    "element " ++ toString position ++ " of 'arguments' is not a string"
  | unsplittableCommand => "'command' could not be split into arguments"
  | missingCompiler length =>
    "argument list has " ++ toString length
      ++ " element(s), the compiler is expected at position 1"

/-- A record: a compile command, or why it is none. -/
abbrev Record := Except Malformation CompileCommand

namespace Record

/-- The word in front of the words of a command text. -/
def placeholder : String := "sh"

/-- A member that has to be a string. -/
def stringMember (members : List (String × Json)) (field : String) :
    Except Malformation String :=
  match Json.lookup field members with
  | some (.string s) => .ok s
  | some other => .error (.wrongType field "a string" other.describe)
  | none => .error (.missingField field)

/-- Items that have to be strings, of which the first stands at `position`. -/
def stringItems : Nat → List Json → Except Malformation (List String)
  | _, [] => .ok []
  | position, .string s :: rest => do return s :: (← stringItems (position + 1) rest)
  | position, _ :: _ => .error (.nonStringArgument position)

/-- The arguments that the text `command` spells. -/
def commandArguments (members : List (String × Json)) : Except Malformation (List String) :=
  match Json.lookup "command" members with
  | some (.string command) =>
    match ShellWords.split command with
    | some words => .ok (placeholder :: words)
    | none => .error .unsplittableCommand
  | some other => .error (.wrongType "command" "a string" other.describe)
  | none => .error (.missingField "arguments")

/-- The arguments of a record. -/
def arguments (members : List (String × Json)) : Except Malformation (List String) :=
  match Json.lookup "arguments" members with
  | some (.array items) => stringItems 0 items
  | some other => .error (.wrongType "arguments" "an array" other.describe)
  | none => commandArguments members

/-- A compile command whose arguments reach the compiler's position. -/
def ofCommand (c : CompileCommand) : Record :=
  if c.arguments.length < 2 then .error (.missingCompiler c.arguments.length) else .ok c

/-- The record that a value is. -/
def ofJson (v : Json) : Record :=
  match v with
  | .object members => do
    let directory ← stringMember members "directory"
    let file ← stringMember members "file"
    let arguments ← arguments members
    ofCommand ⟨⟨directory⟩, ⟨file⟩, arguments⟩
  | other => .error (.notObject other.describe)

end Record

end CompileIndex
