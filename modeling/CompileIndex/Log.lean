/-!
# Log events

What the program reports while it works.  An event has a level, the part of the program that it
comes from, and a text; parts of the program write it as a component in brackets, what
happened, and details behind a colon.

* `Log.Event` — one event, `Log.Event.line` and `Log.Event.row` its texts;
* `Log.Origin` — the parts of the program, with the names that filters know.
-/

namespace CompileIndex.Log

/-- How urgent an event is, the most urgent first. -/
inductive Level where
  | error | warn | info | debug | trace
  deriving DecidableEq, Repr

namespace Level

/-- The name of a level. -/
def text : Level → String
  | error => "ERROR"
  | warn => "WARN"
  | info => "INFO"
  | debug => "DEBUG"
  | trace => "TRACE"

/-- The place of a level among all levels, from one. -/
def rank : Level → Nat
  | error => 1
  | warn => 2
  | info => 3
  | debug => 4
  | trace => 5

/-- The name of a level, filled up in front to five characters. -/
def column (l : Level) : String :=
  String.ofList (List.replicate (5 - l.text.length) ' ') ++ l.text

end Level

/-- The part of the program that an event comes from.  The last two are the machinery that
tells the watcher about changes. -/
inductive Origin where
  | index | host | watcher | serve | poll | inotify
  deriving DecidableEq, Repr

namespace Origin

/-- The name of a part, as filters name it. -/
def text : Origin → String
  | index => "ccindex::index::store"
  | host => "ccindex::host"
  | watcher => "ccindex::watcher::database"
  | serve => "ccindex::cli::commands::serve"
  | poll => "mio::poll"
  | inotify => "notify::inotify"

/-- The name of a part in the texts of its events, if it gives one. -/
def component : Origin → Option String
  | index => some "index"
  | host => some "host"
  | watcher => some "watcher"
  | serve => some "serve"
  | poll | inotify => none

/-- The names of what an event of a part carries: its text, and from the machinery also the
place where it arose. -/
def fields : Origin → List String
  | index | host | watcher | serve => ["message"]
  | poll | inotify => ["message", "log.target", "log.module_path", "log.file", "log.line"]

end Origin

/-- An event. -/
structure Event where
  level : Level
  origin : Origin
  text : String
  deriving DecidableEq, Repr

namespace Event

/-- An event whose text follows the name of the component. -/
def of (level : Level) (origin : Origin) (text : String) : Event :=
  let lead := match origin.component with
    | some name => "[" ++ name ++ "] "
    | none => ""
  ⟨level, origin, lead ++ text⟩

/-- The level and the text. -/
def line (e : Event) : String :=
  e.level.text ++ " " ++ e.text

/-- A character as a log shows it: those that terminals take for commands by their number. -/
def shownChar (c : Char) : List Char :=
  if c = '\x07' || c = '\x08' || c = '\x0c' || c = '\x1b' || c = '\x7f' then
    ['\\', 'x', Nat.digitChar (c.toNat / 16), Nat.digitChar (c.toNat % 16)]
  else if 0x80 ≤ c.toNat && c.toNat ≤ 0x9f then
    ['\\', 'u', '\x7b', Nat.digitChar (c.toNat / 16), Nat.digitChar (c.toNat % 16), '\x7d']
  else [c]

/-- The level, the origin and the text, as a log shows them behind the time. -/
def row (e : Event) : String :=
  e.level.column ++ " " ++ e.origin.text ++ ": "
    ++ String.ofList (e.text.toList.flatMap shownChar)

end Event

end CompileIndex.Log
