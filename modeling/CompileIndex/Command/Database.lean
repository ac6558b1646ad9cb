import CompileIndex.Command.Record
import CompileIndex.Disk.Error
import CompileIndex.Json.Reader

/-!
# Compilation databases

A database is the list of its records in the order of the document, well-formed or not.  Only a
file that cannot be read, a text that is no JSON and a document that is no array fail as a
whole.
-/

namespace CompileIndex

/-- A compilation database. -/
structure Database where
  records : List Record

namespace Database

/-- Why a document is no database. -/
inductive Error where
  | unreadable (path : Path) (cause : FileError)
  | notJson (path : Path) (text : List Char) (fault : Json.Fault)
  | notArray (found : String)

/-- The wording of what lies behind an error, if anything does. -/
def Error.source : Error → Option String
  | unreadable _ cause => some cause.message
  | notJson _ text fault => some (fault.message text)
  | notArray _ => none

/-- The wording of an error. -/
def Error.message : Error → String
  | unreadable path cause =>
    "Cannot read compile commands database " ++ path.text ++ ": " ++ cause.message
  | notJson path text fault =>
    "Compile commands database " ++ path.text ++ " is not valid JSON: " ++ fault.message text
  | notArray found => "Compile commands database must be a JSON array, found " ++ found

/-- The name under which build tools write a database. -/
def defaultFile : String := "compile_commands.json"

/-- The database that a value is. -/
def ofJson : Json → Except Error Database
  | .array items => .ok ⟨items.map Record.ofJson⟩
  | other => .error (.notArray other.describe)

/-- The database of some commands. -/
def ofCommands (commands : List CompileCommand) : Database :=
  ⟨commands.map Record.ofCommand⟩

/-- The database of the file at `path`, of which `content` is what reading it gave. -/
def load (path : Path) (content : Except FileError String) : Except Error Database :=
  match content with
  | .error cause => .error (.unreadable path cause)
  | .ok text =>
    match Json.parse text with
    | .error fault => .error (.notJson path text.toList fault)
    | .ok v => ofJson v

/-- The commands of the well-formed records, in order. -/
def commands (db : Database) : List CompileCommand :=
  db.records.filterMap Except.toOption

end Database

end CompileIndex
