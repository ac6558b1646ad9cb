import CompileIndex.Settings.Basic
import CompileIndex.Settings.Variable
import CompileIndex.Text.Quoted

/-!
# Settings from layers

The merged layers are read as settings.  A value that is not set is the initial one; a section
is a table, or a list of its values in order.  No value is turned into one of another kind.  Of
several values of a wrong kind the one whose name comes first in the order of names is reported.

* `Settings.ofEntries`, `Settings.ofLayers` — the settings that a table of values is, and those that
  the layers are;
* `Settings.Fault` — what is wrong with a value, where, and in which layer.
-/

namespace CompileIndex.Settings

/-- What is wrong with a value. -/
structure Fault where
  /-- Whether the value is of the right kind but out of range. -/
  outOfRange : Bool
  found : String
  wanted : String
  path : List String
  layer : Layer
  deriving DecidableEq

/-- Doubles in messages: always by position. -/
def floatStyle : Decimal.Style :=
  ⟨none, false, false⟩

/-- A value as messages name it. -/
def describe : Layered → String
  | .leaf _ (.text s) => "string " ++ Text.quoted s
  | .leaf _ (.bool b) => "bool " ++ (if b then "true" else "false")
  | .leaf _ (.signed n) => "signed int `" ++ String.ofList (Json.printInt n) ++ "`"
  | .leaf _ (.unsigned n) => "unsigned int `" ++ String.ofList (Decimal.digitsOf n) ++ "`"
  | .leaf _ (.float x) => "float `" ++ Decimal.write floatStyle x ++ "`"
  | .list _ _ => "sequence"
  | .table _ _ => "map"

/-- A value at a path of names. -/
structure Located where
  path : List String
  value : Layered

namespace Located

/-- The fault of a value of a wrong kind. -/
def wrongKind (v : Located) (wanted : String) : Fault :=
  ⟨false, describe v.value, wanted, v.path, v.value.layer⟩

/-- The fault of a value out of range. -/
def outOfRange (v : Located) (wanted : String) : Fault :=
  ⟨true, describe v.value, wanted, v.path, v.value.layer⟩

/-- A string; `wanted` names it in faults. -/
def text (wanted : String) (v : Located) : Except Fault String :=
  match v.value with
  | .leaf _ (.text s) => .ok s
  | _ => .error (v.wrongKind wanted)

/-- A path. -/
def filePath (v : Located) : Except Fault Path :=
  (v.text "path string").map Path.mk

/-- A whole number below `limit`. -/
def natural (wanted : String) (limit : Nat) (v : Located) : Except Fault Nat :=
  match v.value with
  | .leaf _ (.signed n) =>
    if 0 ≤ n ∧ n < limit then .ok n.toNat else .error (v.outOfRange wanted)
  | .leaf _ (.unsigned n) => if n < limit then .ok n else .error (v.outOfRange wanted)
  | _ => .error (v.wrongKind wanted)

/-- A list, its items read by `item`. -/
def list {α : Type} (item : Located → Except Fault α) (v : Located) : Except Fault (List α) :=
  match v.value with
  | .list _ items => items.zipIdx.mapM fun (x, i) => item ⟨v.path ++ [toString i], x⟩
  | _ => .error (v.wrongKind "a sequence")

/-- A table with free names, as levels sorted by name. -/
def levels (v : Located) : Except Fault (List (String × String)) :=
  match v.value with
  | .table _ entries => do
    let read ← entries.mapM fun (name, x) => do
      return (name, ← text "a string" ⟨v.path ++ [name], x⟩)
    return read.foldl (fun sorted e => putLevel e.1 e.2 sorted) []
  | _ => .error (v.wrongKind "a map")

/-- The field of a section that has the place `i` among its fields. -/
def field? (v : Located) (i : Nat) (name : String) : Option Located :=
  match v.value with
  | .table _ entries => (entries.lookup name).map fun x => ⟨v.path ++ [name], x⟩
  | .list _ items => items[i]?.map fun x => ⟨v.path ++ [toString i], x⟩
  | .leaf _ _ => none

/-- A section, which is a table or a list. -/
def checkSection (name : String) (v : Located) : Except Fault Unit :=
  match v.value with
  | .leaf _ _ => .error (v.wrongKind ("struct " ++ name))
  | _ => .ok ()

/-- A value read by `read`, or `unset` where there is none. -/
def orElse {α : Type} (unset : α) (read : Located → Except Fault α) :
    Option Located → Except Fault α
  | some v => read v
  | none => .ok unset

/-- The section of the folders. -/
def folders (v : Located) : Except Fault (List Path) := do
  v.checkSection "WorkspaceConfig"
  orElse initial.folders (list filePath) (v.field? 0 "folders")

/-- The section of the database. -/
def database (v : Located) : Except Fault Path := do
  v.checkSection "DatabaseConfig"
  orElse initial.database filePath (v.field? 0 "path")

/-- The section of the target. -/
def target (v : Located) : Except Fault BuildTarget := do
  v.checkSection "TargetConfig"
  let architecture ←
    orElse initial.target.architecture (text "a string") (v.field? 0 "architecture")
  let platform ← orElse initial.target.platform (text "a string") (v.field? 1 "platform")
  return ⟨architecture, platform⟩

/-- The section of the watcher. -/
def debounce (v : Located) : Except Fault UInt64 := do
  v.checkSection "WatchConfig"
  orElse initial.debounce (fun x => (x.natural "u64" 0x10000000000000000).map UInt64.ofNat)
    (v.field? 0 "debounce_ms")

/-- The section of the log. -/
def log (v : Located) : Except Fault (String × List (String × String)) := do
  v.checkSection "LoggingConfig"
  let level ← orElse initial.logLevel (text "a string") (v.field? 0 "default")
  let modules ← orElse initial.logModules levels (v.field? 1 "modules")
  return (level, modules)

end Located

/-- The settings that a table of values is; its fields are read in the order of their names. -/
def ofEntries (entries : List (String × Layered)) : Except Fault Settings := do
  let read {α : Type} (name : String) (unset : α) (f : Located → Except Fault α) :
      Except Fault α :=
    Located.orElse unset f ((entries.lookup name).map fun v => ⟨[name], v⟩)
  let database ← read "database" initial.database Located.database
  let log ← read "logging" (initial.logLevel, initial.logModules) Located.log
  let target ← read "target" initial.target Located.target
  let version ← read "version" initial.version fun v =>
    (v.natural "u32" 0x100000000).map UInt32.ofNat
  let debounce ← read "watch" initial.debounce Located.debounce
  let folders ← read "workspace" initial.folders Located.folders
  let workspaceRoot ← read "workspace_root" none fun v => v.filePath.map some
  return { version, workspaceRoot, folders, database, target, debounce
           logLevel := log.1
           logModules := log.2 }

/-- The settings that the table of a settings file and the environment give. -/
def ofLayers (file : List (String × Toml.Value)) (environment : List (String × String)) :
    Except Fault Settings :=
  match (Layered.ofToml (.table file)).merge (Variable.layer environment) with
  | .table _ entries => ofEntries entries
  | _ => .ok initial

/-- The name of a value in its layer. -/
def Fault.key (f : Fault) : String :=
  match f.layer with
  | .file => ".".intercalate ("default" :: f.path)
  | .environment => String.ofList ((".".intercalate f.path).toList.map Char.toUpper)

/-- The wording of a fault, where `file` is the settings file as it is shown. -/
def Fault.message (file : String) (f : Fault) : String :=
  (if f.outOfRange then "invalid value " else "invalid type: found ") ++ f.found
    ++ ", expected " ++ f.wanted ++ " for key " ++ Text.quoted f.key ++ " in "
    ++ match f.layer with
      | .file => file ++ " TOML file"
      | .environment => "`" ++ Variable.lead ++ "` environment variable(s)"

end CompileIndex.Settings
