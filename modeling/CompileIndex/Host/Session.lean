import CompileIndex.Host.Response
import CompileIndex.Index.Rebuild
import CompileIndex.Text.Blank

/-!
# Sessions with a host

A session answers the lines of a host from its index.  Only a `rebuild` changes the index, and
only when the database can be loaded.

Reading the database is an action of whatever monad the session runs in; it is done for
`rebuild` alone.

* `Session.handle` — one line;
* `Session.segments` — a byte stream cut into lines;
* `Session.serve` — a byte stream answered line by line.
-/

namespace CompileIndex

/-- What a session knows. -/
structure Session where
  index : Index
  databasePath : Path
  target : BuildTarget

namespace Session

variable {m : Type → Type} [Monad m]

/-- What an answered line leaves behind. -/
structure Answer where
  session : Session
  response : Response
  events : List Log.Event

/-- A value that may be missing. -/
def browseJson (b : Option BrowseConfiguration) : Json :=
  (b.map BrowseConfiguration.toJson).getD .null

/-- The result of a question; a rebuild is none. -/
def query? (index : Index) : Request → Option Json
  | .canProvideConfiguration file => some (.bool (index.contains file))
  | .provideConfigurations files =>
    some (.array ((index.items files).map FileConfigurationItem.toJson))
  | .canProvideBrowseConfiguration => some (.bool index.hasFolders)
  | .provideBrowseConfiguration => some (browseJson index.primaryBrowse?)
  | .provideFolderBrowseConfiguration folder => some (browseJson (index.folder? folder))
  | .rebuild => none

/-- The event of a request that was understood. -/
def requestEvent (r : Request) : Log.Event :=
  .of .debug .host ("request: " ++ r.method)

/-- The event of a request that failed. -/
def failedEvent (e : Request.Error) : Log.Event :=
  .of .warn .host ("request failed: " ++ e.message)

/-- A failed request answered. -/
def fail (s : Session) (id : Json) (events : List Log.Event) (e : Request.Error) : Answer :=
  ⟨s, .failure id e, events ++ [failedEvent e]⟩

/-- A rebuild from what reading the database gave, answered. -/
def rebuild (s : Session) (id : Json) (events : List Log.Event)
    (content : Except FileError String) : Answer :=
  match s.index.refresh s.databasePath content s.target with
  | .ok rebuilt =>
    ⟨{ s with index := rebuilt.index }, .success id rebuilt.report.toJson,
      events ++ rebuilt.events⟩
  | .error cause => s.fail id events (.rebuildFailed cause)

/-- One line answered. -/
def handle (readDatabase : m (Except FileError String)) (s : Session) (line : String) :
    m Answer :=
  let (id, request) := Request.parse line
  match request with
  | .error e => return s.fail id [] e
  | .ok request =>
    match query? s.index request with
    | some result => return ⟨s, .success id result, [requestEvent request]⟩
    | none => return s.rebuild id [requestEvent request] (← readDatabase)

/-- A byte stream cut behind every line feed. -/
def segments : List UInt8 → List (List UInt8)
  | [] => []
  | b :: rest =>
    if b = 10 then [b] :: segments rest
    else match segments rest with
      | [] => [[b]]
      | segment :: more => (b :: segment) :: more

/-- The text of a line; none when all of it is blank. -/
def lineOf? (segment : List UInt8) : Option String :=
  let text := Text.Utf8.decodeLossy segment
  if text.all Text.isBlank then none else some (String.ofList text)

/-- The lines of a byte stream. -/
def lines (input : List UInt8) : List String :=
  (segments input).filterMap lineOf?

/-- A response as it is written. -/
def written (r : Response) : String :=
  r.toJson.text ++ "\n"

/-- What a served byte stream leaves behind. -/
structure Served where
  session : Session
  output : String
  events : List Log.Event

/-- Lines answered one after the other. -/
def serveLines (readDatabase : m (Except FileError String)) (s : Session) :
    List String → m Served
  | [] => return ⟨s, "", []⟩
  | line :: rest => do
    let answer ← handle readDatabase s line
    let served ← serveLines readDatabase answer.session rest
    return ⟨served.session, written answer.response ++ served.output,
      answer.events ++ served.events⟩

/-- A byte stream answered. -/
def serve (readDatabase : m (Except FileError String)) (s : Session) (input : List UInt8) :
    m Served :=
  serveLines readDatabase s (lines input)

end Session

end CompileIndex
