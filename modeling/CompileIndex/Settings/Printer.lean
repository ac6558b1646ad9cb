import CompileIndex.Settings.Basic
import CompileIndex.Toml.Printer

/-!
# Settings as TOML

A settings file holds the version and the workspace root, then one table per section, a blank
line in front of each.  The workspace root is left out when it is not set; the levels of the
parts of the program have a table even when there are none.
-/

namespace CompileIndex.Settings

open Toml

/-- The lines of a table, a blank line in front. -/
def writeTable (key : List String) (lines : List (List Char)) : List Char :=
  '\n' :: writeHeader key ++ lines.flatten

/-- The text of a settings file. -/
def toToml (s : Settings) : String :=
  String.ofList (
    writePair "version" (writeNat s.version.toNat)
    ++ (match s.workspaceRoot with
      | some root => writePair "workspace_root" (writeString root.text)
      | none => [])
    ++ writeTable ["workspace"] [writePair "folders" (writeArray (s.folders.map Path.text))]
    ++ writeTable ["database"] [writePair "path" (writeString s.database.text)]
    ++ writeTable ["target"] [writePair "architecture" (writeString s.target.architecture),
      writePair "platform" (writeString s.target.platform)]
    ++ writeTable ["watch"] [writePair "debounce_ms" (writeNat s.debounce.toNat)]
    ++ writeTable ["logging"] [writePair "default" (writeString s.logLevel)]
    ++ writeTable ["logging", "modules"]
      (s.logModules.map fun m => writePair m.1 (writeString m.2)))

end CompileIndex.Settings
