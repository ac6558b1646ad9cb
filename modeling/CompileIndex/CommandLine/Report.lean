import CompileIndex.CommandLine.Invocation
import CompileIndex.Index.Rebuild
import CompileIndex.Settings.Printer

/-!
# What the commands print

The texts that the commands write to standard output, from what the commands found out.

* `Summary.text`, `Summary.toJson` — an index, in numbers;
* `Query.answer` — what an index answers to a question;
* `Settings.overview` — the settings with the paths that they lead to.
-/

namespace CompileIndex

/-- The settings, and what their folders and their database resolve to. -/
def Settings.overview (s : Settings) (here : Path) : String :=
  "Current Configuration:\n" ++ String.ofList (List.replicate 50 '=') ++ "\n" ++ s.toToml ++ "\n"
    ++ "Resolved folders:\n"
    ++ String.join ((s.workspaceFolders here).map fun f => "  - " ++ f.text ++ "\n")
    ++ "Resolved database: " ++ (s.databasePath here).text ++ "\n"

namespace CommandLine

/-- Settings with the overrides in place. -/
def Overrides.apply (o : Overrides) (s : Settings) : Settings :=
  { s with
    database := o.database.getD s.database
    target :=
      ⟨o.architecture.getD s.target.architecture, o.platform.getD s.target.platform⟩ }

/-- What `init` says about the file that it wrote. -/
def createdText (file : Path) : String :=
  "Created configuration file at: " ++ file.text ++ "\n"
    ++ "Edit this file to register workspace folders and the database path.\n"

/-! ### Summaries -/

/-- An index in numbers. -/
structure Summary where
  database : Path
  target : BuildTarget
  report : Report
  folders : List (Path × BrowseConfiguration)

namespace Summary

/-- A number of things; the noun stands in the plural unless there is one. -/
def counted (n : Nat) (noun : String) : String :=
  toString n ++ " " ++ noun ++ if n = 1 then "" else "s"

/-- A folder on a line. -/
def folderLine (folder : Path) (b : BrowseConfiguration) : String :=
  "  " ++ folder.text ++ ": " ++ counted b.browsePath.size "browse path" ++ ", "
    ++ counted b.compilerArgs.size "compiler arg" ++ ", standard "
    ++ (b.standard.map Standard.text).getD "-" ++ "\n"

/-- A summary to be read. -/
def text (s : Summary) : String :=
  "Indexed " ++ counted s.report.files "file" ++ " from " ++ s.database.text ++ "\n"
    ++ "  records: " ++ toString s.report.records ++ ", skipped: " ++ toString s.report.skipped
    ++ ", replaced: " ++ toString s.report.replaced ++ "\n"
    ++ "  target: " ++ s.target.architecture ++ " / " ++ s.target.platform ++ "\n"
    ++ String.join (s.folders.map fun (folder, b) => folderLine folder b)

/-- A text, or null. -/
def textOrNull (t : Option String) : Json :=
  (t.map Json.string).getD .null

def folderJson (folder : Path) (b : BrowseConfiguration) : Json :=
  .object [("folder", .string folder.text), ("browse_paths", .ofNat b.browsePath.size),
    ("compiler_args", .ofNat b.compilerArgs.size),
    ("compiler_path", textOrNull b.compilerPath),
    ("standard", textOrNull (b.standard.map Standard.text))]

def toJson (s : Summary) : Json :=
  .object [("database", .string s.database.text),
    ("architecture", .string s.target.architecture), ("platform", .string s.target.platform),
    ("stats", s.report.toJson),
    ("folders", .array (s.folders.map fun (folder, b) => folderJson folder b))]

end Summary

/-! ### Queries -/

namespace Query

/-- A question with its paths made absolute against the current directory; none when one of them
cannot be. -/
def absolute? (here : Path) : Query → Option Query
  | files paths => (paths.mapM fun p => Path.absolute? here p).map .files
  | browse none => some (.browse none)
  | browse (some folder) => (Path.absolute? here folder).map fun f => .browse (some f)

/-- What is known about a folder, or about the primary one. -/
def folderAnswer (index : Index) : Option Path → Option BrowseConfiguration
  | some folder => index.folder? folder
  | none => index.primaryBrowse?

/-- What an index answers to a question. -/
def answer (index : Index) : Query → Json
  | files paths => .array ((index.items paths).map FileConfigurationItem.toJson)
  | browse folder =>
    ((folderAnswer index folder).map BrowseConfiguration.toJson).getD .null

/-- What is said about a question that an index cannot answer in full.  Files are gone through
again only when there are fewer items than files. -/
def complaints (index : Index) : Query → List String
  | files paths =>
    if (index.items paths).length < paths.length then
      (paths.filter fun p => !index.contains p).map fun p => "No configuration for " ++ p.text
    else []
  | browse folder =>
    if (folderAnswer index folder).isNone then ["No browse configuration for this folder"]
    else []

end Query

end CommandLine

end CompileIndex
