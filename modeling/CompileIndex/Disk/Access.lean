import CompileIndex.Disk

/-!
# Access to files

What the program needs of the machine that it runs on: files, the current directory and the
variables of the environment.  `Surroundings` are a machine as a value; actions on it are state
transitions, so that what the program does to files can be computed.
-/

namespace CompileIndex

/-- Access to a machine. -/
class Access (m : Type → Type) where
  read : Path → m (Except FileError (List UInt8))
  write : Path → String → m (Except FileError Unit)
  makeDirectory : Path → m (Except FileError Unit)
  isFile : Path → m Bool
  isDirectory : Path → m Bool
  currentDirectory : m Path
  /-- The variables of the environment with their values, in order. -/
  environment : m (List (String × String))

namespace Access

variable {m : Type → Type} [Monad m] [Access m]

/-- The text of a file. -/
def readText (p : Path) : m (Except FileError String) := do
  return textOf (← Access.read p)

/-- Whether a file or a directory stands at a path. -/
def holds (p : Path) : m Bool := do
  return (← Access.isFile p) || (← Access.isDirectory p)

/-- The first directory of a list made, where the others are those above it, the nearest
first; those that are missing are made before it. -/
def makeChain : List Path → m (Except FileError Unit)
  | [] => return .ok ()
  | p :: above => do
    if p.parent.isNone then return .ok ()
    match ← Access.makeDirectory p with
    | .ok () => return .ok ()
    | .error .notFound =>
      match ← makeChain above with
      | .error e => return .error e
      | .ok () => settle p (← Access.makeDirectory p)
    | .error e => settle p (.error e)
where
  /-- A directory that is there already counts as made. -/
  settle (p : Path) (made : Except FileError Unit) : m (Except FileError Unit) := do
    match made with
    | .ok () => return .ok ()
    | .error e => return if ← Access.isDirectory p then .ok () else .error e

/-- A directory made together with all those above it that are missing. -/
def makeDirectories (p : Path) : m (Except FileError Unit) :=
  makeChain p.ancestors

end Access

/-- A machine as a value. -/
structure Surroundings where
  disk : Disk
  directory : Place
  environment : List (String × String)

namespace Surroundings

/-- The path of a place. -/
def pathOf (place : Place) : Path :=
  ⟨"/" ++ String.intercalate "/" place⟩

instance : Access (StateM Surroundings) where
  read p := do
    let s ← get
    return s.disk.read s.directory p
  write p text := do
    let s ← get
    match s.disk.write s.directory p (Text.Utf8.encode text) with
    | .ok disk =>
      set { s with disk }
      return .ok ()
    | .error e => return .error e
  makeDirectory p := do
    let s ← get
    match s.disk.makeDirectory s.directory p with
    | .ok disk =>
      set { s with disk }
      return .ok ()
    | .error e => return .error e
  isFile p := do
    let s ← get
    return s.disk.isFile s.directory p
  isDirectory p := do
    let s ← get
    return s.disk.isDirectory s.directory p
  currentDirectory := do
    let s ← get
    return pathOf s.directory
  environment := do
    let s ← get
    return s.environment

end Surroundings

end CompileIndex
