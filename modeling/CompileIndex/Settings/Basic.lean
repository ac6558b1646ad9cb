import CompileIndex.Command.Database
import CompileIndex.Configuration.File

/-!
# Settings

What a workspace is set up with.  Relative folders are resolved against the workspace root, or
the current directory when there is none; the database is resolved against the first folder.

* `Settings.initial` — the settings when nothing is set;
* `Settings.workspaceFolders`, `Settings.databasePath` — the resolved paths;
* `Settings.toJson`, `Settings.decoder` — settings in JSON texts.
-/

namespace CompileIndex

/-- What a workspace is set up with. -/
structure Settings where
  version : UInt32
  workspaceRoot : Option Path
  /-- The workspace folders; the first is the primary one. -/
  folders : List Path
  database : Path
  target : BuildTarget
  /-- How many milliseconds a database has to be quiet before it is indexed again. -/
  debounce : UInt64
  /-- The log level of all parts of the program. -/
  logLevel : String
  /-- Other log levels of some parts, sorted by name. -/
  logModules : List (String × String)
  deriving DecidableEq

namespace Settings

/-- The settings when nothing is set. -/
def initial : Settings :=
  { version := 1
    workspaceRoot := none
    folders := []
    database := ⟨Database.defaultFile⟩
    target := ⟨"x64", "linux"⟩
    debounce := 300
    logLevel := "warn"
    logModules := [] }

instance : Inhabited Settings := ⟨initial⟩

/-! ### Resolved paths -/

/-- What relative folders are resolved against. -/
def base (s : Settings) (currentDirectory : Path) : Path :=
  s.workspaceRoot.getD currentDirectory

/-- The workspace folders, resolved; the base alone when there are none. -/
def workspaceFolders (s : Settings) (currentDirectory : Path) : List Path :=
  let base := s.base currentDirectory
  if s.folders.isEmpty then [base] else s.folders.map base.resolve

/-- The database, resolved. -/
def databasePath (s : Settings) (currentDirectory : Path) : Path :=
  let primary := (s.workspaceFolders currentDirectory).head?.getD (s.base currentDirectory)
  primary.resolve s.database

/-! ### Levels of parts of the program -/

/-- A name with a level put into levels sorted by name; it takes the place of one of its
name. -/
def putLevel (name level : String) : List (String × String) → List (String × String)
  | [] => [(name, level)]
  | (n, l) :: rest =>
    if name < n then (name, level) :: (n, l) :: rest
    else if name = n then (name, level) :: rest
    else (n, l) :: putLevel name level rest

/-- A log filter: a level for all parts, and levels for some of them, which come sorted by
name. -/
def directives (level : String) (modules : List (String × String)) : String :=
  level ++ String.join (modules.map fun m => "," ++ m.1 ++ "=" ++ m.2)

/-- The log filter of some settings. -/
def logDirectives (s : Settings) : String :=
  directives s.logLevel s.logModules

/-! ### JSON -/

def toJson (s : Settings) : Json :=
  .object (
    [("version", .ofNat s.version.toNat)]
    ++ (s.workspaceRoot.map fun root => ("workspace_root", Json.string root.text)).toList
    ++ [("workspace", .object [("folders", .strings (s.folders.map Path.text))]),
      ("database", .object [("path", .string s.database.text)]),
      ("target", s.target.toJson),
      ("watch", .object [("debounce_ms", .ofNat s.debounce.toNat)]),
      ("logging", .object [("default", .string s.logLevel),
        ("modules", .object (s.logModules.map fun m => (m.1, .string m.2)))])])

/-- Reads the section of the folders. -/
def foldersDecoder : Json.Decoder (List Path) :=
  .record "WorkspaceConfig" (.cons (.withDefault "folders" (.list .path) []) .nil) (·.1)

/-- Reads the section of the database. -/
def databaseDecoder : Json.Decoder Path :=
  .record "DatabaseConfig" (.cons (.withDefault "path" .path initial.database) .nil) (·.1)

/-- Reads the section of the target. -/
def targetDecoder : Json.Decoder BuildTarget :=
  .record "TargetConfig"
    (.cons (.withDefault "architecture" .text initial.target.architecture)
      (.cons (.withDefault "platform" .text initial.target.platform) .nil))
    fun (architecture, platform, _) => ⟨architecture, platform⟩

/-- Reads the section of the watcher. -/
def debounceDecoder : Json.Decoder UInt64 :=
  .record "WatchConfig" (.cons (.withDefault "debounce_ms" .natural64 initial.debounce) .nil)
    (·.1)

/-- Reads the section of the log. -/
def logDecoder : Json.Decoder (String × List (String × String)) :=
  .record "LoggingConfig"
    (.cons (.withDefault "default" .text initial.logLevel)
      (.cons (.withDefault "modules" (.table .text putLevel []) []) .nil))
    fun (level, modules, _) => (level, modules)

/-- Reads settings. -/
def decoder : Json.Decoder Settings :=
  .record "Settings"
    (.cons (.withDefault "version" .natural32 initial.version)
      (.cons (.optional "workspace_root" .path)
        (.cons (.withDefault "workspace" foldersDecoder initial.folders)
          (.cons (.withDefault "database" databaseDecoder initial.database)
            (.cons (.withDefault "target" targetDecoder initial.target)
              (.cons (.withDefault "watch" debounceDecoder initial.debounce)
                (.cons (.withDefault "logging" logDecoder (initial.logLevel, []))
                  .nil)))))))
    fun (version, workspaceRoot, folders, database, target, debounce, log, _) =>
      { version, workspaceRoot, folders, database, target, debounce
        logLevel := log.1
        logModules := log.2 }

end Settings

end CompileIndex
