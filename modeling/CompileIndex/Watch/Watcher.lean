import CompileIndex.Index.Rebuild
import CompileIndex.Text.Quoted
import CompileIndex.Watch.Debouncer

/-!
# Watching a database

The directory of the database is watched, because build tools replace the database by renaming
a new file.  An event counts when one of its paths has the file name of the database.  A changed
database is indexed again when it has been quiet long enough; after a removal the index stays as
it is until the file is back.

* `Watcher.directory` — the directory that has to be watched;
* `Watcher.isDatabaseEvent` — whether an event counts;
* `Watcher.timeout` — how long the loop waits for an event;
* `Watcher.step` — one turn of the loop: at most one event, then the rebuild that is due.
-/

namespace CompileIndex

/-- A change in a directory. -/
inductive ChangeKind where
  | created | modified | removed | other
  deriving DecidableEq, Repr

/-- A change with the paths that it touches. -/
structure ChangeEvent where
  kind : ChangeKind
  paths : List Path

/-- Why a database cannot be watched. -/
inductive WatchError where
  | noParentDirectory (database : Path)
  | unwatchable (directory : Path) (reason : String)
  deriving DecidableEq, Repr

namespace WatchError

/-- The wording of an error. -/
def message : WatchError → String
  | noParentDirectory database =>
    "Database path " ++ database.text ++ " has no parent directory to watch"
  | unwatchable directory reason =>
    "Cannot watch database directory " ++ directory.text ++ ": " ++ reason

/-- Why a directory cannot be watched when looking for it, as the path `sought`, fails. -/
def ofFileError (directory sought : Path) (e : FileError) : WatchError :=
  let cause := match e with
    | .notFound => "No path was found."
    | .nulInName => "data provided contains a nul byte"
    | e => e.message
  .unwatchable directory (cause ++ " about [" ++ Text.quoted sought.text ++ "]")

end WatchError

/-- A database under watch. -/
structure Watcher where
  index : Index
  databasePath : Path
  target : BuildTarget
  debouncer : Debouncer

namespace Watcher

variable {m : Type → Type} [Monad m]

/-- The directory that has to be watched for a database. -/
def directory (database : Path) : Except WatchError Path :=
  match database.parent with
  | some parent => .ok (if parent.text = "" then ⟨"."⟩ else parent)
  | none => .error (.noParentDirectory database)

/-- Whether an event touches a database. -/
def isDatabaseEvent (e : ChangeEvent) (database : Path) : Bool :=
  match database.fileName with
  | none => false
  | some name => e.paths.any fun p => p.fileName = some name

/-- The event of changes waited for. -/
def waitingEvent : Log.Event :=
  .of .trace .poll "registering event source with poller: token=Token(0), interests=READABLE"

/-- The event of a directory, given as an absolute path, that is about to be watched. -/
def addingEvent (sought : Path) : Log.Event :=
  .of .trace .inotify ("adding inotify watch: " ++ sought.text)

/-- The event of a directory under watch. -/
def watchingEvent (directory : Path) : Log.Event :=
  .of .debug .watcher ("watching: " ++ directory.text)

/-- The event of a watcher that starts its work. -/
def startedEvent (database : Path) : Log.Event :=
  .of .info .watcher ("started: " ++ database.text)

/-- The event of a watcher that ends its work. -/
def stoppedEvent : Log.Event :=
  .of .info .watcher "stopped"

/-- The event of a database that was removed. -/
def removedEvent (database : Path) : Log.Event :=
  .of .warn .watcher ("database removed: " ++ database.text)

/-- How long the loop waits for an event while no change is held back. -/
def idleTick : Nat :=
  250

/-- How long the loop waits for an event: until a file has been quiet long enough. -/
def timeout (w : Watcher) (now : Nat) : Nat :=
  (w.debouncer.wait? now).getD idleTick

/-- One event taken in. -/
def notice (w : Watcher) (now : Nat) (e : ChangeEvent) : Watcher × List Log.Event :=
  if isDatabaseEvent e w.databasePath then
    match e.kind with
    | .created | .modified =>
      ({ w with debouncer := w.debouncer.record now w.databasePath }, [])
    | .removed =>
      ({ w with debouncer := w.debouncer.remove w.databasePath },
        [removedEvent w.databasePath])
    | .other => (w, [])
  else (w, [])

/-- The index built again from what reading the database gave. -/
def rebuild (w : Watcher) (content : Except FileError String) : Watcher × List Log.Event :=
  match w.index.refresh w.databasePath content w.target with
  | .ok rebuilt =>
    ({ w with index := rebuilt.index },
      rebuilt.events ++ [.of .info .watcher
        ("reindexed: " ++ toString rebuilt.report.files ++ " files ("
          ++ toString rebuilt.report.skipped ++ " skipped)")])
  | .error cause =>
    (w, [.of .warn .watcher ("rebuild failed, keeping previous index: " ++ cause.message)])

/-- One turn of the loop at a time: at most one event, then the rebuild that is due. -/
def step (readDatabase : m (Except FileError String)) (w : Watcher) (now : Nat)
    (event : Option ChangeEvent) : m (Watcher × List Log.Event) := do
  let (w, noticed) := match event with
    | some e => w.notice now e
    | none => (w, [])
  let (ready, debouncer) := w.debouncer.takeReady now
  let w := { w with debouncer }
  if ready.isEmpty then return (w, noticed)
  let (w, rebuilt) := w.rebuild (← readDatabase)
  return (w, noticed ++ rebuilt)

end Watcher

end CompileIndex
