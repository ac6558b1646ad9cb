/-!
# Words of a command line

A command line split the way a shell does: blanks separate words, quotes keep them, a
backslash takes the next character as it is, and `#` in front of a word starts a comment that
runs to the end of the line.  A backslash in front of a line end takes both away.

* `ShellWords.split` — the words, or none when a quote or a backslash is left open;
* `ShellWords.quote`, `ShellWords.quotedLine` — a word between single quotes, and a command line
  of such words.
-/

namespace CompileIndex.ShellWords

/-- Where the reader of a command line stands. -/
inductive Mode where
  /-- In front of a word. -/
  | between
  /-- In a comment. -/
  | comment
  /-- In a word, outside quotes. -/
  | word
  /-- Behind a backslash in a word. -/
  | escape
  /-- Between single quotes. -/
  | single
  /-- Between double quotes. -/
  | double
  /-- Behind a backslash between double quotes. -/
  | doubleEscape
  deriving DecidableEq, Repr

/-- Whether a character separates words. -/
def isSeparator (c : Char) : Bool :=
  c = ' ' || c = '\t' || c = '\n'

/-- What a character inside a word does: the mode after it, and what it adds to the word. -/
def inWord (c : Char) : Mode × List Char :=
  if c = '"' then (.double, [])
  else if c = '\'' then (.single, [])
  else if c = '\\' then (.escape, [])
  else (.word, [c])

/-- The words of the rest of a command line; `held` is the word begun, last character first. -/
def splitFrom : Mode → List Char → List Char → Option (List (List Char))
  | .between, _, [] => some []
  | .comment, _, [] => some []
  | .word, held, [] => some [held.reverse]
  | _, _, [] => none
  | .between, held, c :: rest =>
    if isSeparator c then splitFrom .between held rest
    else if c = '#' then splitFrom .comment held rest
    else splitFrom (inWord c).1 (inWord c).2 rest
  | .comment, held, c :: rest =>
    splitFrom (if c = '\n' then .between else .comment) held rest
  | .word, held, c :: rest =>
    if isSeparator c then (splitFrom .between [] rest).map (held.reverse :: ·)
    else splitFrom (inWord c).1 ((inWord c).2 ++ held) rest
  | .escape, held, c :: rest =>
    splitFrom .word (if c = '\n' then held else c :: held) rest
  | .single, held, c :: rest =>
    if c = '\'' then splitFrom .word held rest else splitFrom .single (c :: held) rest
  | .double, held, c :: rest =>
    if c = '"' then splitFrom .word held rest
    else if c = '\\' then splitFrom .doubleEscape held rest
    else splitFrom .double (c :: held) rest
  | .doubleEscape, held, c :: rest =>
    if c = '$' || c = '`' || c = '"' || c = '\\' then splitFrom .double (c :: held) rest
    else if c = '\n' then splitFrom .double held rest
    else splitFrom .double (c :: '\\' :: held) rest

/-- The words of a command line. -/
def split (line : String) : Option (List String) :=
  (splitFrom .between [] line.toList).map (·.map String.ofList)

/-- One character of a word between single quotes. -/
def quoteChar (c : Char) : List Char :=
  if c = '\'' then ['\'', '\\', '\'', '\''] else [c]

/-- A word between single quotes. -/
def quote (word : String) : String :=
  String.ofList ('\'' :: word.toList.flatMap quoteChar ++ ['\''])

/-- A command line of some words, each between single quotes, with a blank between any two. -/
def quotedLine (words : List String) : String :=
  " ".intercalate (words.map quote)

end CompileIndex.ShellWords
