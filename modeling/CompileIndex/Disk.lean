import CompileIndex.Disk.Error
import CompileIndex.Path
import CompileIndex.Text.Utf8

/-!
# Disks

A disk is a tree of directories and files, held as the list of its places with what stands
there.  A place is the list of the names that lead to it from the root.  Every name that a path
passes has to lead to a directory; only then may the path go on, also with `.` and `..`.

* `Disk.locate` — the place that a path leads to;
* `Disk.read`, `Disk.write` — the content of a file;
* `Disk.makeDirectory` — a directory more;
* `Disk.isFile`, `Disk.isDirectory` — what stands at a path.
-/

namespace CompileIndex

/-- The names that lead from the root to a file or a directory. -/
abbrev Place := List String

/-- What stands at a place. -/
inductive Entry where
  | directory
  | file (content : List UInt8)
  deriving DecidableEq

/-- A tree of directories and files. -/
structure Disk where
  entries : List (Place × Entry)

namespace Disk

/-- The disk with nothing but its root. -/
def empty : Disk :=
  ⟨[]⟩

instance : Inhabited Disk := ⟨empty⟩

/-- What stands at a place. -/
def entry? (d : Disk) (place : Place) : Option Entry :=
  if place.isEmpty then some .directory else d.entries.lookup place

/-- The disk with something put at a place, instead of what stood there. -/
def put (d : Disk) (place : Place) (e : Entry) : Disk :=
  ⟨(place, e) :: d.entries.filter fun old => old.1 ≠ place⟩

/-- The disk with nothing at a place. -/
def remove (d : Disk) (place : Place) : Disk :=
  ⟨d.entries.filter fun old => old.1 ≠ place⟩

/-- The steps that a path spells: its names with `.` and `..`. -/
def stepsOf (p : Path) : List String :=
  ((Path.pieces p.text.toList).filter fun piece => !piece.isEmpty).map String.ofList

/-- Whether a path ends in a slash, so that it can only lead to a directory. -/
def endsInSlash (p : Path) : Bool :=
  p.text.toList.getLast? = some '/'

/-- The greatest number of bytes in a name and in a path. -/
def nameLimit : Nat := 255

def pathLimit : Nat := 4095

/-- One step from a place, which has to be a directory. -/
def step (d : Disk) (place : Place) (name : String) : Except FileError Place :=
  match d.entry? place with
  | none => .error .notFound
  | some (.file _) => .error .notDirectory
  | some .directory =>
    if name = "." then .ok place
    else if name = ".." then .ok place.dropLast
    else if nameLimit < name.utf8ByteSize then .error .nameTooLong
    else .ok (place ++ [name])

/-- The place that a path leads to from the directory `start`; nothing need stand there. -/
def locate (d : Disk) (start : Place) (p : Path) : Except FileError Place :=
  if p.text.toList.contains '\x00' then .error .nulInName
  else if p.text = "" then .error .notFound
  else if pathLimit < p.text.utf8ByteSize then .error .nameTooLong
  else (stepsOf p).foldlM d.step (if p.isRooted then [] else start)

/-- What stands at the place that a path leads to. -/
def lookup (d : Disk) (start : Place) (p : Path) : Except FileError Entry := do
  let place ← d.locate start p
  match d.entry? place with
  | none => .error .notFound
  | some .directory => .ok .directory
  | some (.file content) =>
    if endsInSlash p then .error .notDirectory else .ok (.file content)

/-- Whether a directory stands at a path. -/
def isDirectory (d : Disk) (start : Place) (p : Path) : Bool :=
  match d.lookup start p with
  | .ok .directory => true
  | _ => false

/-- Whether a file stands at a path. -/
def isFile (d : Disk) (start : Place) (p : Path) : Bool :=
  match d.lookup start p with
  | .ok (.file _) => true
  | _ => false

/-- The content of a file. -/
def read (d : Disk) (start : Place) (p : Path) : Except FileError (List UInt8) := do
  match ← d.lookup start p with
  | .directory => .error .isDirectory
  | .file content => .ok content

/-- A file written, new or instead of its old content. -/
def write (d : Disk) (start : Place) (p : Path) (content : List UInt8) :
    Except FileError Disk := do
  let place ← d.locate start p
  match d.entry? place with
  | some .directory => .error .isDirectory
  | _ => if endsInSlash p then .error .isDirectory else .ok (d.put place (.file content))

/-- A directory made in one that is there already. -/
def makeDirectory (d : Disk) (start : Place) (p : Path) : Except FileError Disk := do
  let place ← d.locate start p
  match d.entry? place with
  | some _ => .error .alreadyExists
  | none => .ok (d.put place .directory)

end Disk

/-- The text of what reading a file gave. -/
def textOf (content : Except FileError (List UInt8)) : Except FileError String :=
  content.bind fun bytes =>
    match Text.Utf8.decode? bytes with
    | some cs => .ok (String.ofList cs)
    | none => .error .notUtf8

end CompileIndex
