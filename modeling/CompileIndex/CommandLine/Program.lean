import CompileIndex.CommandLine.Report
import CompileIndex.CommandLine.Service
import CompileIndex.Log.Filter
import CompileIndex.Settings.Load

/-!
# The program

A command line is carried out on a machine.  Results go to standard output, log events and
errors to standard error.  A log filter in the environment wins over `--verbose`, which wins
over the level in the settings.

* `Program.start` — a command line carried out as far as it goes without input;
* `Program.run` — a command line carried out with all its input.
-/

namespace CompileIndex.CommandLine

/-- A line on standard error. -/
inductive Notice where
  | event (e : Log.Event)
  | complaint (text : String)

/-- Why a command fails. -/
inductive Failure where
  | settings (e : Settings.LoadError)
  | creation (e : Settings.SaveError)
  | database (path : Path) (e : Database.Error)
  /-- An empty path in a question. -/
  | emptyPath
  | watch (e : WatchError)

/-- The wording of a failure. -/
def Failure.message : Failure → String
  | settings e => "Error loading configuration: " ++ e.message
  | creation e => "Error: " ++ e.message
  | database path e =>
    "Error: loading " ++ path.text ++ ": " ++ String.intercalate ": " (e.message :: e.source.toList)
  | emptyPath => "Error: cannot make an empty path absolute"
  | watch e => "Error: " ++ e.message

/-- What a finished run leaves behind. -/
structure Outcome where
  output : String
  notices : List Notice
  failure : Option Failure

namespace Outcome

/-- A run that succeeds. -/
def success (output : String) (notices : List Notice) : Outcome :=
  ⟨output, notices, none⟩

/-- A run that fails. -/
def failed (notices : List Notice) (f : Failure) : Outcome :=
  ⟨"", notices, some f⟩

/-- The exit code. -/
def exitCode (o : Outcome) : Nat :=
  if o.failure.isSome then 1 else 0

/-- All lines on standard error; a failure is named last. -/
def errorLines (o : Outcome) : List Notice :=
  o.notices ++ (o.failure.map fun f => Notice.complaint f.message).toList

end Outcome

/-- How far a command line goes without input. -/
inductive Plan where
  | refused (r : Refusal)
  | finished (o : Outcome)
  | serving (notices : List Notice) (filter : Log.Filter) (service : Service)

namespace Program

variable {m : Type → Type} [Monad m] [Access m]

/-- The name and the version of the program. -/
def versionText : String := "ccindex 0.3.2\n"

/-- The variable of the environment that holds a log filter. -/
def filterVariable : String := "RUST_LOG"

/-- The log filter of a run, and complaints about it. -/
def logFilter (s : Settings) (verbose : Bool) : m (Log.Filter × List Notice) := do
  let text := match (← Access.environment).lookup filterVariable with
    | some text => text
    | none => if verbose then Settings.directives "debug" s.logModules else s.logDirectives
  let (filter, complaints) := Log.Filter.parse text
  return (filter, complaints.map .complaint)

/-- The events that get past a filter. -/
def notices (filter : Log.Filter) (events : List Log.Event) : List Notice :=
  (events.filter filter.admits).map .event

/-- The command `init`. -/
def create (force : Bool) : m Outcome := do
  let root ← Access.currentDirectory
  match ← Settings.create root force with
  | .ok file => return .success (createdText file) []
  | .error e => return .failed [] (.creation e)

/-- The index that some settings lead to. -/
def buildIndex (s : Settings) : m (Path × Except Database.Error Rebuilt) := do
  let here ← Access.currentDirectory
  let database := s.databasePath here
  let loaded := Database.load database (← Access.readText database)
  return (database, loaded.map fun db =>
    (Index.ofFolders (s.workspaceFolders here)).rebuild db s.target)

/-- The command `index`. -/
def index (s : Settings) (filter : Log.Filter) (json : Bool) : m Outcome := do
  match ← buildIndex s with
  | (database, .error e) => return .failed [] (.database database e)
  | (database, .ok rebuilt) =>
    let summary : Summary :=
      ⟨database, s.target, rebuilt.report, rebuilt.index.folders.entries⟩
    return .success (if json then summary.toJson.pretty ++ "\n" else summary.text)
      (notices filter rebuilt.events)

/-- The command `query`. -/
def query (s : Settings) (filter : Log.Filter) (q : Query) : m Outcome := do
  match ← buildIndex s with
  | (database, .error e) => return .failed [] (.database database e)
  | (_, .ok rebuilt) =>
    match q.absolute? (← Access.currentDirectory) with
    | none => return .failed (notices filter rebuilt.events) .emptyPath
    | some q =>
      return .success ((q.answer rebuilt.index).pretty ++ "\n")
        (notices filter rebuilt.events ++ (q.complaints rebuilt.index).map .complaint)

/-- The command `serve`, up to the first line of the host. -/
def serve (s : Settings) (filter : Log.Filter) (watch : Bool) : m Plan := do
  let (events, service) ← Service.start s watch
  match service with
  | .error e => return .finished (.failed (notices filter events) (.watch e))
  | .ok service => return .serving (notices filter events) filter service

/-- Lines on standard error in front of all others. -/
def placeBefore (earlier : List Notice) : Plan → Plan
  | .refused r => .refused r
  | .finished o => .finished { o with notices := earlier ++ o.notices }
  | .serving later filter service => .serving (earlier ++ later) filter service

/-- A command that needs the settings. -/
def act (s : Settings) (filter : Log.Filter) : Action → m Plan
  | .init force => return .finished (← create force)
  | .config => return .finished (.success (s.overview (← Access.currentDirectory)) [])
  | .index overrides json => return .finished (← index (overrides.apply s) filter json)
  | .query overrides q => return .finished (← query (overrides.apply s) filter q)
  | .serve overrides watch => serve (overrides.apply s) filter watch

/-- The settings of an invocation; `init` goes by no settings file. -/
def settings (i : Invocation) : m (Except Settings.LoadError Settings) := do
  match i.action with
  | .init _ => return .ok .initial
  | _ => Settings.load i.settingsFile

/-- An invocation carried out as far as it goes without input. -/
def invoke (i : Invocation) : m Plan := do
  match ← settings i with
  | .error e => return .finished (.failed [] (.settings e))
  | .ok s =>
    let (filter, complaints) ← logFilter s i.verbose
    return placeBefore complaints (← act s filter i.action)

/-- A command line carried out as far as it goes without input. -/
def start (words : List String) : m Plan := do
  match Invocation.parse words with
  | .error .versionAsked => return .finished (.success versionText [])
  | .error r => return .refused r
  | .ok i => invoke i

/-- A command line carried out with all its input. -/
def run (words : List String) (input : List UInt8) : m (Except Refusal Outcome) := do
  match ← start words with
  | .refused r => return .error r
  | .finished o => return .ok o
  | .serving earlier filter service =>
    let (output, events) ← service.run input
    return .ok (.success output (earlier ++ notices filter events))

end Program

end CompileIndex.CommandLine
