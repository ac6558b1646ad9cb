/-!
# The grammar of the command line

A command line is read level by level: a command opens a level of its own, which has its own
options, commands and operands.  The options `--config`, `--verbose` and `--help` are at home on
every level.

* `Level.commands`, `Level.options`, `Level.admits` — what a level has;
* `Switch.long`, `Switch.letter?` — the spellings of an option.
-/

namespace CompileIndex.CommandLine

/-- A command that does something. -/
inductive Verb where
  | init | config | index | serve | file | browse
  deriving DecidableEq, Repr

/-- A level of the command line. -/
inductive Level where
  /-- In front of the first command. -/
  | program
  /-- Behind the command `query`, which wants a command of its own. -/
  | query
  /-- Behind a command that does something. -/
  | verb (v : Verb)
  deriving DecidableEq, Repr

/-- An option. -/
inductive Switch where
  | help | version | settings | verbose | force | json | watch | database | architecture
  | platform
  deriving DecidableEq, Repr

namespace Switch

/-- The name behind two dashes. -/
def long : Switch → String
  | help => "help"
  | version => "version"
  | settings => "config"
  | verbose => "verbose"
  | force => "force"
  | json => "json"
  | watch => "watch"
  | database => "database"
  | architecture => "arch"
  | platform => "platform"

/-- The letter behind one dash. -/
def letter? : Switch → Option Char
  | help => some 'h'
  | version => some 'V'
  | settings => some 'c'
  | verbose => some 'v'
  | force => some 'f'
  | _ => none

/-- Whether an option has a value. -/
def takesValue : Switch → Bool
  | settings | database | architecture | platform => true
  | _ => false

/-- Whether the value of an option is a path, which is never empty. -/
def takesPath : Switch → Bool
  | settings | database => true
  | _ => false

/-- What an option does, for the help text. -/
def summary : Switch → String
  | help => "Show this help"
  | version => "Show the version"
  | settings => "Read the settings from this file"
  | verbose => "Log everything down to level debug"
  | force => "Replace a settings file that is there already"
  | json => "Print the summary as JSON"
  | watch => "Index again whenever the database changes"
  | database => "The database to index, instead of the one in the settings"
  | architecture => "The architecture to index for, instead of the one in the settings"
  | platform => "The platform to index for, instead of the one in the settings"

end Switch

namespace Level

/-- The options that every level has. -/
def everywhere : List Switch :=
  [.settings, .verbose, .help]

/-- The options that choose what is indexed. -/
def choosing : List Switch :=
  [.database, .architecture, .platform]

/-- The options of a level. -/
def options : Level → List Switch
  | program => everywhere ++ [.version]
  | query => choosing ++ everywhere
  | verb .init => .force :: everywhere
  | verb .index => choosing ++ .json :: everywhere
  | verb .serve => choosing ++ .watch :: everywhere
  | verb _ => everywhere

/-- The commands of a level by their names. -/
def commands : Level → List (String × Level)
  | program => [("init", verb .init), ("config", verb .config), ("index", verb .index),
      ("query", query), ("serve", verb .serve)]
  | query => [("file", verb .file), ("browse", verb .browse)]
  | verb _ => []

/-- Whether a level takes one more operand when it has `n` already. -/
def admits (l : Level) (n : Nat) : Bool :=
  match l with
  | verb .file => true
  | verb .browse => n = 0
  | _ => false

/-- Whether a level goes on with a command. -/
def hasCommands (l : Level) : Bool :=
  !l.commands.isEmpty

/-- The option of a name. -/
def option? (l : Level) (name : String) : Option Switch :=
  l.options.find? fun o => o.long = name

/-- The option of a letter. -/
def letter? (l : Level) (c : Char) : Option Switch :=
  l.options.find? fun o => o.letter? = some c

end Level

/-- What a word opens. -/
inductive Opening where
  | level (l : Level)
  /-- The command `help`, which explains the command that the words behind it lead to. -/
  | help
  deriving DecidableEq, Repr

/-- What a word opens on a level; none for a word that is no command there. -/
def Level.opens? (l : Level) (word : String) : Option Opening :=
  if l.hasCommands && word = "help" then some .help
  else (l.commands.lookup word).map .level

end CompileIndex.CommandLine
