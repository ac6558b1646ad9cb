import CompileIndex.CommandLine.Reading
import CompileIndex.Path

/-!
# Invocations

What a command line asks for.

* `Invocation.parse` — the words of a command line, or why they are refused.
-/

namespace CompileIndex.CommandLine

/-- What takes the place of the settings about what is indexed. -/
structure Overrides where
  database : Option Path
  architecture : Option String
  platform : Option String
  deriving DecidableEq, Repr

/-- A question to the index. -/
inductive Query where
  | files (paths : List Path)
  /-- The primary folder when no folder is named. -/
  | browse (folder : Option Path)
  deriving DecidableEq, Repr

/-- What the program is asked to do. -/
inductive Action where
  | init (force : Bool)
  | config
  | index (overrides : Overrides) (json : Bool)
  | query (overrides : Overrides) (query : Query)
  | serve (overrides : Overrides) (watch : Bool)
  deriving DecidableEq, Repr

/-- What a command line asks for. -/
structure Invocation where
  settingsFile : Option Path
  verbose : Bool
  action : Action
  deriving DecidableEq, Repr

/-- The overrides among what is given. -/
def Given.overrides (g : Given) : Overrides :=
  ⟨(g.value? .database).map Path.mk, g.value? .architecture, g.value? .platform⟩

/-- What was read asks for. -/
def Reading.action (r : Reading) : Action :=
  let own := r.given (.verb r.verb)
  let asked := (r.given .query).overrides
  match r.verb with
  | .init => .init (own.has .force)
  | .config => .config
  | .index => .index own.overrides (own.has .json)
  | .serve => .serve own.overrides (own.has .watch)
  | .file => .query asked (.files (own.operands.map Path.mk))
  | .browse => .query asked (.browse (own.operands.head?.map Path.mk))

/-- What the words of a command line ask for. -/
def Invocation.parse (words : List String) : Except Refusal Invocation := do
  let r ← Level.program.read words
  return ⟨(r.value? .settings).map Path.mk, (r.value? .verbose).isSome, r.action⟩

end CompileIndex.CommandLine
