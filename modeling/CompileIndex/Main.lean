import CompileIndex.CommandLine.Program
import CompileIndex.CommandLine.Usage
import Std.Sync.Mutex
import Std.Time.Zoned

/-!
# The program on this machine

The files, the environment and the clock of the machine, and the streams of the process.
-/

namespace CompileIndex.Console

open CommandLine

/-! ### The machine -/

/-- The number of a system error, which may come negated. -/
def errorNumber (code : UInt32) : Nat :=
  if code.toNat < 0x80000000 then code.toNat else 0x100000000 - code.toNat

/-- The cause of a failed action on files. -/
def fileError : IO.Error → FileError
  | .noFileOrDirectory _ _ _ => .notFound
  | .alreadyExists _ _ _ => .alreadyExists
  | .inappropriateType _ code _ => if errorNumber code = 21 then .isDirectory else .notDirectory
  | .invalidArgument _ code _ => if errorNumber code = 36 then .nameTooLong else .nulInName
  | .permissionDenied _ code _ =>
    .other ("Permission denied (os error " ++ toString (errorNumber code) ++ ")")
  | e => .other (toString e)

/-- An action with its failure as a value. -/
def attempt {α : Type} (action : IO α) : IO (Except FileError α) := do
  try
    return .ok (← action)
  catch e =>
    return .error (fileError e)

/-- Whether something stands at a path. -/
def stands (text : String) : IO Bool := do
  return (← attempt (IO.FS.realPath text)).toOption.isSome

/-- Whether a directory stands at a path. -/
def standsDirectory (p : Path) : IO Bool := do
  if p.text.isEmpty then return false else stands (p.text ++ "/.")

/-- A variable of the environment, from its bytes. -/
def entryOf? (bytes : List UInt8) : Option (String × String) := do
  let cs ← Text.Utf8.decode? bytes
  let name := cs.takeWhile (· ≠ '=')
  if name.isEmpty || name.length = cs.length then none
  else some (String.ofList name, String.ofList (cs.drop (name.length + 1)))

/-- The variables of the environment of this process. -/
def processEnvironment : IO (List (String × String)) := do
  match ← attempt (IO.FS.readBinFile "/proc/self/environ") with
  | .ok bytes => return (bytes.toList.splitOn 0).filterMap entryOf?
  | .error _ => return []

instance : Access IO where
  read p := attempt do return (← IO.FS.readBinFile p.text).toList
  write p text := attempt (IO.FS.writeFile p.text text)
  makeDirectory p := attempt (IO.FS.createDir p.text)
  isFile p := do return (← stands p.text) && !(← standsDirectory p)
  isDirectory := standsDirectory
  currentDirectory := do return ⟨(← IO.currentDir).toString⟩
  environment := processEnvironment

/-! ### Standard error -/

/-- A number with zeros in front. -/
def zeros (width n : Nat) : String :=
  String.ofList (List.replicate (width - (toString n).length) '0') ++ toString n

/-- The time of the day. -/
def clock : IO String := do
  let t ← Std.Time.PlainTime.now
  return zeros 2 t.hour.val.toNat ++ ":" ++ zeros 2 t.minute.val.toNat ++ ":"
    ++ zeros 2 t.second.val.toNat ++ "." ++ zeros 3 (t.nanosecond.val.toNat / 1000000)

/-- A line written to standard error. -/
def notify : Notice → IO Unit
  | .event e => do IO.eprintln ((← clock) ++ " " ++ e.row)
  | .complaint text => IO.eprintln text

def notifyAll (notices : List Notice) : IO Unit :=
  notices.forM notify

/-! ### Services -/

/-- When the database was last written and how long it is; none when it is not there. -/
def stamp (p : Path) : IO (Option (Int × UInt32 × UInt64)) := do
  let found ← attempt do
    let real ← IO.FS.realPath p.text
    let data ← real.metadata
    return (data.modified.sec, data.modified.nsec, data.byteSize)
  return found.toOption

/-- What happened to a file between two stamps. -/
def changeOf {α : Type} [DecidableEq α] (old new : Option α) : Option ChangeKind :=
  match old, new with
  | none, some _ => some .created
  | some _, none => some .removed
  | some a, some b => if a = b then none else some .modified
  | none, none => none

/-- The database looked at again and again until the host is gone. -/
partial def watch (shared : Std.Mutex Service) (done : IO.Ref Bool) (filter : Log.Filter)
    (database : Path) (seen : Option (Int × UInt32 × UInt64)) : IO Unit := do
  if ← done.get then return
  IO.sleep 50
  let found ← stamp database
  let event := (changeOf seen found).map fun kind => ChangeEvent.mk kind [database]
  let now ← IO.monoMsNow
  let events ← shared.atomically do
    let (service, events) ← ((← get).turn now event : IO (Service × List Log.Event))
    set service
    return events
  notifyAll (Program.notices filter events)
  watch shared done filter database found

/-- The bytes of a line with its line feed, the last ones first. -/
partial def readSegment (input : IO.FS.Stream) (before : List UInt8) : IO (List UInt8) := do
  match (← input.read 1).toList with
  | [] => return before
  | b :: _ => if b = 10 then return b :: before else readSegment input (b :: before)

/-- The lines of a host answered until the input ends. -/
partial def answer (shared : Std.Mutex Service) (filter : Log.Filter)
    (input output : IO.FS.Stream) : IO Unit := do
  let segment := (← readSegment input []).reverse
  if segment.isEmpty then return
  if let some line := Session.lineOf? segment then
    let (response, events) ← shared.atomically do
      let (service, response, events) ←
      ((← get).handle line : IO (Service × Response × List Log.Event))
      set service
      return (response, events)
    notifyAll (Program.notices filter events)
    output.putStr (Session.written response)
    output.flush
  answer shared filter input output

/-- A service at work. -/
def serve (filter : Log.Filter) (service : Service) : IO Unit := do
  let shared ← Std.Mutex.new service
  let done ← IO.mkRef false
  let database := service.session.databasePath
  let say (e : Log.Event) : IO Unit := notifyAll (Program.notices filter [e])
  let watching ← if service.debouncer.isNone then pure none else do
    say (Watcher.startedEvent database)
    let seen ← stamp database
    some <$> IO.asTask (watch shared done filter database seen) .dedicated
  answer shared filter (← IO.getStdin) (← IO.getStdout)
  done.set true
  if let some task := watching then
    discard (IO.wait task)
    say Watcher.stoppedEvent

/-- A refused command line explained. -/
def explain : Refusal → IO Unit
  | .helpAsked => IO.print fullHelp
  | r => IO.eprint ("error: " ++ r.message ++ "\n\n" ++ fullHelp)

end CompileIndex.Console

open CompileIndex CommandLine in
def main (words : List String) : IO UInt32 := do
  match ← Program.start words with
  | .refused r =>
    Console.explain r
    return r.exitCode.toUInt32
  | .finished outcome =>
    IO.print outcome.output
    Console.notifyAll outcome.errorLines
    return outcome.exitCode.toUInt32
  | .serving notices filter service =>
    Console.notifyAll notices
    Console.serve filter service
    return 0
