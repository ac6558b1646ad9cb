import CompileIndex.CommandLine.Grammar

/-!
# Reading a command line

The words are read from the first to the last, and the first fault ends the reading.  What an
option or an operand holds is checked when the next one comes, or at the end of its level, so a
fault in how a word is spelled is found before a fault in the value in front of it.  Inner
levels come to their end before outer ones.

* `Given` — the checked options and operands of one level;
* `State.step` — what one word does to a level under way;
* `Level.read` — all levels from one on.
-/

namespace CompileIndex.CommandLine

/-- Why words are no command line to run. -/
inductive Refusal where
  | helpAsked
  | versionAsked
  /-- Nothing at all is said on a level that wants a command. -/
  | nothingSaid
  | missingCommand
  | unknownCommand
  | unknownArgument
  | missingOperand
  /-- A value for an option that has none. -/
  | unwantedValue
  | invalidValue
  | repeatedOption
  deriving DecidableEq, Repr

/-- The exit code of a refused command line: asking for help or for the version is no
fault. -/
def Refusal.exitCode : Refusal → Nat
  | helpAsked | versionAsked => 0
  | _ => 2

/-- What is given on one level. -/
structure Given where
  /-- The options with their values, which are empty for options without one. -/
  options : List (Switch × String)
  operands : List String
  deriving DecidableEq, Repr

namespace Given

/-- Nothing given. -/
def empty : Given :=
  ⟨[], []⟩

/-- The value of an option. -/
def value? (g : Given) (o : Switch) : Option String :=
  g.options.lookup o

/-- Whether an option is given. -/
def has (g : Given) (o : Switch) : Bool :=
  (g.value? o).isSome

/-- One option more. -/
def addOption (g : Given) (o : Switch) (value : String) : Except Refusal Given :=
  match o with
  | .help => .error .helpAsked
  | .version => .error .versionAsked
  | _ =>
    if g.has o then .error .repeatedOption
    else if o.takesPath && value.isEmpty then .error .invalidValue
    else .ok { g with options := g.options ++ [(o, value)] }

/-- Some operands more. -/
def addOperands (g : Given) (words : List String) : Except Refusal Given :=
  if words.any String.isEmpty then .error .invalidValue
  else .ok { g with operands := g.operands ++ words }

end Given

/-- What was read and is not checked yet. -/
inductive Pending where
  | nothing
  /-- An option whose value comes next. -/
  | awaiting (o : Switch)
  | option (o : Switch) (value : String)
  | operands (words : List String)

/-- A level under way. -/
structure State where
  given : Given
  pending : Pending
  /-- Whether `--` was read, behind which no word is an option. -/
  trailing : Bool

/-- What a word does. -/
inductive Step where
  | stay (s : State)
  | opens (o : Opening)

namespace State

/-- The start of a level. -/
def start : State :=
  ⟨.empty, .nothing, false⟩

/-- What is given when nothing more comes. -/
def settled (s : State) : Except Refusal Given :=
  match s.pending with
  | .nothing => .ok s.given
  | .awaiting _ => .error .invalidValue
  | .option o value => s.given.addOption o value
  | .operands words => s.given.addOperands words

/-- An option read together with its value, or without one. -/
def addOption (s : State) (o : Switch) (value : String) : Except Refusal State := do
  let given ← s.settled
  return { s with given := ← given.addOption o value, pending := .nothing }

/-- An option read whose value comes next. -/
def await (s : State) (o : Switch) : Except Refusal State := do
  return { s with given := ← s.settled, pending := .awaiting o }

/-- A word with two dashes: a name, or a name with a value behind an equals sign. -/
def long (s : State) (l : Level) (word : List Char) : Except Refusal State :=
  let name := word.takeWhile (· ≠ '=')
  let value := word.drop (name.length + 1)
  let valued := name.length < word.length
  match l.option? (String.ofList name) with
  | none => .error .unknownArgument
  | some o =>
    if o.takesValue then
      if valued then s.addOption o (String.ofList value) else s.await o
    else if valued then .error .unwantedValue
    else s.addOption o ""

/-- A value that stands right behind a letter, with or without an equals sign. -/
def attached : List Char → String
  | '=' :: value => String.ofList value
  | value => String.ofList value

/-- A word with one dash: letters of options; the first one that has a value takes the rest of
the word, or the next word. -/
def letters (s : State) (l : Level) : List Char → Except Refusal State
  | [] => .ok s
  | c :: rest =>
    match l.letter? c with
    | none => .error .unknownArgument
    | some o =>
      if !o.takesValue then do letters (← s.addOption o "") l rest
      else if rest.isEmpty then s.await o
      else s.addOption o (attached rest)

/-- How many operands were read. -/
def operandCount (s : State) : Nat :=
  s.given.operands.length +
    match s.pending with
    | .operands words => words.length
    | _ => 0

/-- What is wrong with a word that a level has no place for. -/
def misplaced (s : State) (l : Level) (word : String) : Refusal :=
  if l.hasCommands && !(s.trailing && (l.opens? word).isSome) then .unknownCommand
  else .unknownArgument

/-- A word that is no option. -/
def operand (s : State) (l : Level) (word : String) : Except Refusal State :=
  if !l.admits s.operandCount then .error (s.misplaced l word)
  else
    match s.pending with
    | .operands words => .ok { s with pending := .operands (words ++ [word]) }
    | _ => do return { s with given := ← s.settled, pending := .operands [word] }

/-- A word that is neither an option nor a command. -/
def plain (s : State) (l : Level) (word : String) : Except Refusal State :=
  match s.pending with
  | .awaiting o => .ok { s with pending := .option o word }
  | _ => s.operand l word

/-- Whether the value of an option comes next. -/
def awaits (s : State) : Bool :=
  match s.pending with
  | .awaiting _ => true
  | _ => false

/-- What one word does to a level under way. -/
def step (s : State) (l : Level) (word : String) : Except Refusal Step :=
  if s.trailing then (s.operand l word).map .stay
  else
    match if s.awaits then none else l.opens? word with
    | some opening => .ok (.opens opening)
    | none =>
      match word.toList with
      | ['-', '-'] => .ok (.stay { s with trailing := true })
      | '-' :: '-' :: name => (s.long l name).map .stay
      | '-' :: c :: rest => (s.letters l (c :: rest)).map .stay
      | _ => (s.plain l word).map .stay

end State

/-- The command that was chosen, with what is given on its level and on those around it, the
outermost first. -/
structure Reading where
  verb : Verb
  levels : List (Level × Given)
  deriving DecidableEq, Repr

namespace Reading

/-- What is given on a level. -/
def given (r : Reading) (l : Level) : Given :=
  (r.levels.lookup l).getD .empty

/-- The value of an option on the innermost level that gives it. -/
def value? (r : Reading) (o : Switch) : Option String :=
  r.levels.reverse.findSome? fun level => level.2.value? o

end Reading

namespace Level

/-- The end of a level. -/
def finish (l : Level) (given : Given) : Except Refusal Reading :=
  match l with
  | verb v =>
    if v = .file && given.operands.isEmpty then .error .missingOperand
    else .ok ⟨v, [(l, given)]⟩
  | _ => .error (if given.options.isEmpty then .nothingSaid else .missingCommand)

/-- Help on the command that words lead to. -/
def explain (l : Level) : List String → Refusal
  | [] => .helpAsked
  | word :: rest =>
    match l.opens? word with
    | some (.level inner) => inner.explain rest
    | some .help => if rest.isEmpty then .helpAsked else .unknownCommand
    | none => .unknownCommand

/-- The words of a level under way and of all levels inside it. -/
def readFrom (l : Level) (s : State) : List String → Except Refusal Reading
  | [] => do l.finish (← s.settled)
  | word :: rest => do
    match ← s.step l word with
    | .stay s => l.readFrom s rest
    | .opens (.level inner) =>
      let reading ← inner.readFrom .start rest
      return { reading with levels := (l, ← s.settled) :: reading.levels }
    | .opens .help => .error (l.explain rest)

/-- The words from the start of a level on. -/
def read (l : Level) (words : List String) : Except Refusal Reading :=
  l.readFrom .start words

end Level

end CompileIndex.CommandLine
