import CompileIndex.Disk.Access
import CompileIndex.Host.Session
import CompileIndex.Settings.Basic
import CompileIndex.Watch.Watcher

/-!
# Services

A service answers a host and, when it is asked to, watches the database; the session and the
watcher share one index.  A database that cannot be loaded in the beginning does not keep the
service from starting.

* `Service.start` — a service for some settings;
* `Service.run` — the whole input of a host.
-/

namespace CompileIndex

/-- A service under way. -/
structure Service where
  session : Session
  /-- The changes of the database that wait; none when it is not watched. -/
  debouncer : Option Debouncer

namespace Service

variable {m : Type → Type} [Monad m] [Access m]

/-- The event of a database that cannot be loaded in the beginning. -/
def failedEvent (e : Database.Error) : Log.Event :=
  .of .warn .serve ("initial rebuild failed: " ++ e.message)

/-- The event of a service that is ready. -/
def readyEvent (database : Path) : Log.Event :=
  .of .info .serve ("ready: " ++ database.text)

/-- The database read. -/
def readDatabase (s : Service) : m (Except FileError String) :=
  Access.readText s.session.databasePath

/-- The session before the first line: its index is built from the database if that can be
loaded. -/
def openSession (folders : List Path) (database : Path) (target : BuildTarget)
    (content : Except FileError String) : Session × List Log.Event :=
  let index := Index.ofFolders folders
  match index.refresh database content target with
  | .ok rebuilt => (⟨rebuilt.index, database, target⟩, rebuilt.events)
  | .error e => (⟨index, database, target⟩, [failedEvent e])

/-- The directory of a database, when it can be watched, and the events on the way. -/
def openDirectory (database : Path) : m (List Log.Event × Except WatchError Path) := do
  match Watcher.directory database with
  | .error e => return ([Watcher.waitingEvent], .error e)
  | .ok directory =>
    let sought := (← Access.currentDirectory).join directory
    let events := [Watcher.waitingEvent, Watcher.addingEvent sought]
    match ← Access.read directory with
    | .ok _ | .error .isDirectory =>
      return (events ++ [Watcher.watchingEvent directory], .ok directory)
    | .error cause => return (events, .error (.ofFileError directory sought cause))

/-- A service for some settings, and the events on the way. -/
def start (settings : Settings) (watch : Bool) :
    m (List Log.Event × Except WatchError Service) := do
  let here ← Access.currentDirectory
  let database := settings.databasePath here
  let (session, events) := openSession (settings.workspaceFolders here) database settings.target
    (← Access.readText database)
  if watch then
    match ← openDirectory database with
    | (opening, .error e) => return (events ++ opening, .error e)
    | (opening, .ok _) =>
      return (events ++ opening ++ [readyEvent database],
        .ok ⟨session, some (.ofQuiet settings.debounce.toNat)⟩)
  else return (events ++ [readyEvent database], .ok ⟨session, none⟩)

/-- One line of the host answered. -/
def handle (s : Service) (line : String) : m (Service × Response × List Log.Event) := do
  let answer ← s.session.handle s.readDatabase line
  return ({ s with session := answer.session }, answer.response, answer.events)

/-- One turn of the watcher. -/
def turn (s : Service) (now : Nat) (event : Option ChangeEvent) :
    m (Service × List Log.Event) := do
  match s.debouncer with
  | none => return (s, [])
  | some debouncer =>
    let watcher : Watcher :=
      ⟨s.session.index, s.session.databasePath, s.session.target, debouncer⟩
    let (watcher, events) ← watcher.step s.readDatabase now event
    return (⟨{ s.session with index := watcher.index }, some watcher.debouncer⟩, events)

/-- The events of a watcher at work, around those of other parts. -/
def watched (s : Service) (events : List Log.Event) : List Log.Event :=
  match s.debouncer with
  | none => events
  | some _ => Watcher.startedEvent s.session.databasePath :: events ++ [Watcher.stoppedEvent]

/-- The whole input of a host answered, while the database stays as it is. -/
def run (s : Service) (input : List UInt8) : m (String × List Log.Event) := do
  let served ← s.session.serve s.readDatabase input
  return (served.output, s.watched served.events)

end Service

end CompileIndex
