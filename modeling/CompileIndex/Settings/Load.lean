import CompileIndex.Disk.Access
import CompileIndex.Path.Relative
import CompileIndex.Settings.Extract
import CompileIndex.Settings.Printer
import CompileIndex.Toml.Document

/-!
# Loading and saving settings

The workspace root is the nearest directory, from the current one upwards, that holds a
directory `.ccindex`; the settings file stands in there.  A settings file that is given as a
relative path is looked for in the current directory and then in every one above it; a file that
is not there says nothing.

* `Settings.findRoot` — the workspace root;
* `Settings.load`, `Settings.loadFrom` — settings from the layers;
* `Settings.save`, `Settings.create` — settings written.
-/

namespace CompileIndex.Settings

variable {m : Type → Type} [Monad m] [Access m]

/-- The directory of the settings file. -/
def directoryName : Path := ⟨".ccindex"⟩

/-- The name of the settings file. -/
def fileName : Path := ⟨"settings.toml"⟩

/-- The settings file below a directory. -/
def fileBelow (root : Path) : Path :=
  (root.join directoryName).join fileName

/-- The first path of a list that passes a test. -/
def findPath (test : Path → m Bool) : List Path → m (Option Path)
  | [] => return none
  | p :: rest => do if ← test p then return some p else findPath test rest

/-- The workspace root. -/
def findRoot : m (Option Path) := do
  let here ← Access.currentDirectory
  findPath (fun p => Access.isDirectory (p.join directoryName)) here.ancestors

/-- The file that the path of a settings file leads to. -/
def findFile (p : Path) : m (Option Path) := do
  if p.isRooted then
    return if ← Access.isFile p then some p else none
  else
    let here ← Access.currentDirectory
    findPath Access.isFile (here.ancestors.map (·.join p))

/-- Why settings cannot be loaded. -/
inductive LoadError where
  | unreadable (cause : FileError) (shown : String)
  | notToml (file : Path)
  | invalid (fault : Fault) (shown : String)

/-- The wording of an error. -/
def LoadError.message : LoadError → String
  | unreadable cause shown => cause.message ++ "\n in " ++ shown ++ " TOML file"
  | notToml file => "TOML parse error in " ++ file.text ++ " TOML file"
  | invalid fault shown => fault.message shown

/-- A path as it is shown: from the current directory when that is shorter. -/
def shown (here file : Path) : String :=
  match file.difference? here with
  | some way =>
    if way.components.length < file.components.length then way.text else file.text
  | none => file.text

/-- The table of a settings file, which is empty when there is no file. -/
def readFile (here : Path) (file : Option Path) :
    m (Except LoadError (List (String × Toml.Value))) := do
  match file with
  | none => return .ok []
  | some file =>
    match ← Access.readText file with
    | .error cause => return .error (.unreadable cause (shown here file))
    | .ok text =>
      match Toml.parse text with
      | some entries => return .ok entries
      | none => return .error (.notToml file)

/-- The settings of a settings file and the environment. -/
def loadFrom (p : Path) : m (Except LoadError Settings) := do
  let here ← Access.currentDirectory
  let file ← findFile p
  match ← readFile here file with
  | .error e => return .error e
  | .ok entries =>
    let environment ← Access.environment
    return (ofLayers entries environment).mapError fun fault =>
      .invalid fault (shown here (file.getD p))

/-- Settings with the workspace root filled in when it is not set. -/
def withRoot (s : Settings) : m Settings := do
  match s.workspaceRoot with
  | some _ => return s
  | none => return { s with workspaceRoot := ← findRoot }

/-- Settings from a given settings file, or else from that of the workspace. -/
def load (given : Option Path) : m (Except LoadError Settings) := do
  let p ← match given with
    | some p => pure p
    | none => do
      let root ← findRoot
      pure (match root with
        | some root => fileBelow root
        | none => directoryName.join fileName)
  match ← loadFrom p with
  | .error e => return .error e
  | .ok s => return .ok (← s.withRoot)

/-- Why settings cannot be saved. -/
inductive SaveError where
  | invalidPath
  | alreadyExists
  | failed (cause : FileError)
  deriving DecidableEq

/-- The wording of an error. -/
def SaveError.message : SaveError → String
  | invalidPath => "Invalid path"
  | alreadyExists => "Configuration file already exists. Use --force to overwrite"
  | failed cause => cause.message

/-- Settings written to a file, its directory made before. -/
def save (s : Settings) (p : Path) : m (Except SaveError Unit) := do
  match p.parent with
  | none => return .error .invalidPath
  | some parent =>
    match ← Access.makeDirectories parent with
    | .error cause => return .error (.failed cause)
    | .ok () => return (← Access.write p s.toToml).mapError .failed

/-- The first settings file below a directory, with that directory as the only folder. -/
def create (root : Path) (force : Bool) : m (Except SaveError Path) := do
  let file := fileBelow root
  if !force && (← Access.holds file) then return .error .alreadyExists
  else return (← save { initial with folders := [root] } file).map fun _ => file

end CompileIndex.Settings
