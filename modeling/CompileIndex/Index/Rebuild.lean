import CompileIndex.Command.Database
import CompileIndex.Index.Basic
import CompileIndex.Log

/-!
# Rebuilding an index

A rebuild forgets what an index knows and fills it from a database, record by record.  A
malformed record is skipped.  A command sets the configuration of its file, so the last command
of a file wins, and is offered to every folder, so a folder sees all commands that count towards
it, also those replaced later.

* `Index.rebuild` — in place, from the cleared index;
* `Index.rebuiltAfresh` — beside the old index, from its registered folders;
* `Index.refresh` — afresh from the content of a database file; the old index stays when the
  content is no database.
-/

namespace CompileIndex

/-- What a rebuild counts. -/
structure Report where
  /-- All records of the database. -/
  records : Nat
  /-- The malformed ones among them. -/
  skipped : Nat
  /-- The files known afterwards. -/
  files : Nat
  /-- The commands that replaced an earlier one of the same file. -/
  replaced : Nat
  deriving DecidableEq, Repr

namespace Report

def toJson (r : Report) : Json :=
  .object [("records", .ofNat r.records), ("skipped", .ofNat r.skipped),
    ("files", .ofNat r.files), ("replaced", .ofNat r.replaced)]

end Report

/-- What a rebuild leaves behind. -/
structure Rebuilt where
  index : Index
  report : Report
  events : List Log.Event

namespace Index

/-- A rebuild under way.  The events are held last one first. -/
structure Progress where
  index : Index
  skipped : Nat
  replaced : Nat
  events : List Log.Event

/-- The event of a malformed record. -/
def skippedEvent (position : Nat) (reason : Malformation) : Log.Event :=
  .of .warn .index ("skipping record " ++ toString position ++ ": " ++ reason.message)

/-- The event of a compile command. -/
def classifiedEvent (file : Path) (c : FileConfiguration) : Log.Event :=
  .of .debug .index
    ("classified: " ++ file.text ++ " (" ++ c.standard.text ++ ", " ++ c.mode.text ++ ")")

/-- The event at the end of a rebuild. -/
def rebuiltEvent (r : Report) : Log.Event :=
  .of .info .index
    ("rebuilt: " ++ toString r.files ++ " files from " ++ toString r.records ++ " records ("
      ++ toString r.skipped ++ " skipped)")

/-- An index that knows one command more. -/
def addCommand (index : Index) (c : CompileCommand) (target : BuildTarget) : Index :=
  let file := c.absoluteFile
  let configuration := FileConfiguration.ofCommand c target
  { files := index.files.insert file configuration
    folders := index.folders.mapValues fun folder browse =>
      if isAttributed file folder then browse.fold configuration else browse }

/-- One record of a rebuild. -/
def Progress.step (target : BuildTarget) (p : Progress) (record : Record × Nat) : Progress :=
  match record with
  | (.error reason, position) =>
    { p with skipped := p.skipped + 1, events := skippedEvent position reason :: p.events }
  | (.ok c, _) =>
    let file := c.absoluteFile
    { index := p.index.addCommand c target
      skipped := p.skipped
      replaced := p.replaced + if p.index.contains file then 1 else 0
      events := classifiedEvent file (.ofCommand c target) :: p.events }

/-- The records of a database added to an index. -/
def fill (index : Index) (db : Database) (target : BuildTarget) : Progress :=
  db.records.zipIdx.foldl (Progress.step target) ⟨index, 0, 0, []⟩

/-- What a finished rebuild leaves behind. -/
def Progress.finish (p : Progress) (db : Database) : Rebuilt :=
  let report : Report := ⟨db.records.length, p.skipped, p.index.fileCount, p.replaced⟩
  ⟨p.index, report, p.events.reverse ++ [rebuiltEvent report]⟩

/-- An index rebuilt in place. -/
def rebuild (index : Index) (db : Database) (target : BuildTarget) : Rebuilt :=
  (index.clear.fill db target).finish db

/-- A new index of the registered folders, filled beside the old one. -/
def rebuiltAfresh (index : Index) (db : Database) (target : BuildTarget) : Rebuilt :=
  (ofFolders index.folderPaths).rebuild db target

/-- A new index from the content of the database file at `path`; an error means that the old
one stays. -/
def refresh (index : Index) (path : Path) (content : Except FileError String)
    (target : BuildTarget) : Except Database.Error Rebuilt :=
  (Database.load path content).map fun db => index.rebuiltAfresh db target

end Index

end CompileIndex
