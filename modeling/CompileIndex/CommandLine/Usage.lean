import CompileIndex.CommandLine.Reading

/-!
# Help on the command line

* `Level.help` — the commands and options of a level;
* `Refusal.message` — what is wrong with a refused command line.
-/

namespace CompileIndex.CommandLine

/-- What a command does. -/
def Level.summary : Level → String
  | program => "Answer what a compile-commands database says about files and folders"
  | query => "Print the configurations that a host would get"
  | verb .init => "Write a first settings file into the current directory"
  | verb .config => "Print the settings in force"
  | verb .index => "Index the database once and print a summary"
  | verb .serve => "Answer requests of a host, one JSON object per line"
  | verb .file => "Configurations of source files"
  | verb .browse => "Configuration of a folder, or of the primary one"

/-- A text filled up to a width. -/
def padded (width : Nat) (t : String) : String :=
  t ++ String.ofList (List.replicate (width - t.length) ' ')

/-- An option as it is written. -/
def Switch.spelling (o : Switch) : String :=
  (match o.letter? with
    | some c => "-" ++ c.toString ++ ", "
    | none => "    ")
    ++ "--" ++ o.long ++ (if o.takesValue then " VALUE" else "")

/-- A line of a list. -/
def entryLine (name summary : String) : String :=
  "  " ++ padded 24 name ++ summary ++ "\n"

namespace Level

/-- The list of the commands of a level. -/
def commandLines (l : Level) : String :=
  String.join (l.commands.map fun c => entryLine c.1 c.2.summary)

/-- The list of the options of a level. -/
def optionLines (l : Level) : String :=
  String.join (l.options.map fun o => entryLine o.spelling o.summary)

/-- The commands and options of a level, under the words that lead to it. -/
def help (l : Level) (words : String) : String :=
  l.summary ++ "\n\nUsage: " ++ words ++ " [OPTIONS]"
    ++ (if l.hasCommands then " COMMAND\n\nCommands:\n" ++ l.commandLines else
      if l.admits 0 then " PATH\n" else "\n")
    ++ "\nOptions:\n" ++ l.optionLines

end Level

/-- Help on all levels that a level holds. -/
def fullHelp : String :=
  String.intercalate "\n" (
    Level.program.help "ccindex"
    :: (Level.program.commands ++ Level.query.commands.map fun c => ("query " ++ c.1, c.2)).map
      fun c => c.2.help ("ccindex " ++ c.1))

/-- What is wrong with a refused command line. -/
def Refusal.message : Refusal → String
  | helpAsked => "help was asked for"
  | versionAsked => "the version was asked for"
  | nothingSaid | missingCommand => "a command is missing"
  | unknownCommand => "there is no such command"
  | unknownArgument => "there is no such argument"
  | missingOperand => "a path is missing"
  | unwantedValue => "an option without a value was given one"
  | invalidValue => "the value of an option is missing or empty"
  | repeatedOption => "an option was given twice"

end CompileIndex.CommandLine
