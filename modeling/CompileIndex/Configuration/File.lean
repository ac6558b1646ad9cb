import CompileIndex.Command.Sorted
import CompileIndex.Json.Decoder
import CompileIndex.Standard

/-!
# Configurations of files

What an editor has to know about one source file, computed from the file's compile command and
the target of the build.

* `FileConfiguration.ofCommand` — the configuration of a command's file;
* `toJson`, `decoder` — the configuration in JSON texts.
-/

namespace CompileIndex

/-- What the files are compiled for.  Both labels are free texts; only the architecture `x86`
has a meaning. -/
structure BuildTarget where
  architecture : String
  platform : String
  deriving DecidableEq, Repr

namespace BuildTarget

def toJson (t : BuildTarget) : Json :=
  .object [("architecture", .string t.architecture), ("platform", .string t.platform)]

/-- Reads a target. -/
def decoder : Json.Decoder BuildTarget :=
  .record "BuildTarget"
    (.cons (.required "architecture" .text) (.cons (.required "platform" .text) .nil))
    fun (architecture, platform, _) => ⟨architecture, platform⟩

end BuildTarget

/-- The configuration of a source file. -/
structure FileConfiguration where
  includePath : List String
  definitions : List String
  mode : EditorMode
  standard : Standard
  compilerPath : String
  compilerArgs : List String
  deriving DecidableEq, Repr

namespace FileConfiguration

/-- The configuration of the file of a command. -/
def ofCommand (c : CompileCommand) (target : BuildTarget) : FileConfiguration :=
  let sorted := c.sorted
  { includePath := sorted.includePaths
    definitions := sorted.definitions
    mode := .resolve c.compilerBaseName target.architecture
    standard := .resolve sorted.standard
    compilerPath := c.compiler
    compilerArgs := sorted.passed }

def toJson (c : FileConfiguration) : Json :=
  .object [
    ("includePath", .strings c.includePath),
    ("defines", .strings c.definitions),
    ("intelliSenseMode", .string c.mode.text),
    ("standard", .string c.standard.text),
    ("compilerPath", .string c.compilerPath),
    ("compilerArgs", .strings c.compilerArgs)]

/-- Reads the configuration of a file. -/
def decoder : Json.Decoder FileConfiguration :=
  .record "SourceFileConfiguration"
    (.cons (.required "includePath" (.list .text))
      (.cons (.required "defines" (.list .text))
        (.cons (.required "intelliSenseMode" (.word EditorMode.words))
          (.cons (.required "standard" (.word Standard.words))
            (.cons (.required "compilerPath" .text)
              (.cons (.required "compilerArgs" (.list .text)) .nil))))))
    fun (includePath, definitions, mode, standard, compilerPath, compilerArgs, _) =>
      { includePath, definitions, mode, standard, compilerPath, compilerArgs }

end FileConfiguration

/-- A configuration with the file that it is for. -/
structure FileConfigurationItem where
  file : Path
  configuration : FileConfiguration
  deriving DecidableEq, Repr

namespace FileConfigurationItem

def toJson (i : FileConfigurationItem) : Json :=
  .object [("uri", .string i.file.text), ("configuration", i.configuration.toJson)]

/-- Reads a configuration with its file. -/
def decoder : Json.Decoder FileConfigurationItem :=
  .record "SourceFileConfigurationItem"
    (.cons (.required "uri" .path)
      (.cons (.required "configuration" FileConfiguration.decoder) .nil))
    fun (file, configuration, _) => ⟨file, configuration⟩

end FileConfigurationItem

end CompileIndex
