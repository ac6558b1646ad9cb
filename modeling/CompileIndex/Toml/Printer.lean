import CompileIndex.Decimal.Notation

/-!
# Writing TOML

A string is written in the first of these forms that it can be written in:

1. between double quotes, when it holds no double quote, backslash, line feed or other control
   character besides the tab;
2. between single quotes, when it holds no single quote, line feed or other control character;
3. between three double quotes, when it holds neither a backslash nor a control character nor
   three double quotes in a row;
4. between three single quotes, when it holds neither a control character nor three single
   quotes in a row;
5. with escapes, between three double quotes when it holds a line feed, else between one.

Strings between three quotes begin on a line of their own when they hold a line feed.

* `writeString`, `writeKey`, `writeArray` — values and keys;
* `writePair`, `writeHeader` — lines.
-/

namespace CompileIndex.Toml

/-- Whether a character can only be written as an escape. -/
def isControl (c : Char) : Bool :=
  (c.toNat < 32 && c ≠ '\t' && c ≠ '\n') || c.toNat = 127

/-- The greatest number of characters `c` in a row; `run` of them stand in front. -/
def longestRun (c : Char) (run : Nat) : List Char → Nat
  | [] => run
  | d :: rest => if d = c then longestRun c (run + 1) rest else max run (longestRun c 0 rest)

/-- One hexadecimal digit in upper case. -/
def hexDigit (n : Nat) : Char :=
  if n < 10 then Char.ofNat (48 + n) else Char.ofNat (55 + n)

/-- One character between double quotes.  `long` says that there are three of them, so that a
line feed may stand as it is. -/
def escaped (long : Bool) (c : Char) : List Char :=
  if c.toNat = 8 then ['\\', 'b']
  else if c = '\t' then ['\\', 't']
  else if c = '\n' then if long then ['\n'] else ['\\', 'n']
  else if c.toNat = 12 then ['\\', 'f']
  else if c = '\r' then ['\\', 'r']
  else if c = '\\' then ['\\', '\\']
  else if c.toNat < 32 || c.toNat = 127 then
    ['\\', 'u', '0', '0', hexDigit (c.toNat / 16), hexDigit (c.toNat % 16)]
  else [c]

/-- The characters between double quotes, where `free` quotes in a row may stand without escape
and `run` of them stand in front. -/
def escapedFrom (free : Nat) (run : Nat) : List Char → List Char
  | [] => []
  | c :: rest =>
    if c = '"' then
      if run < free then '"' :: escapedFrom free (run + 1) rest
      else '\\' :: '"' :: escapedFrom free 0 rest
    else escaped (0 < free) c ++ escapedFrom free 0 rest

/-- Between double quotes. -/
def basic (cs : List Char) : List Char :=
  '"' :: escapedFrom 0 0 cs ++ ['"']

/-- Between single quotes. -/
def literal (cs : List Char) : List Char :=
  '\'' :: cs ++ ['\'']

/-- The line feed behind three quotes. -/
def opening (cs : List Char) : List Char :=
  if cs.contains '\n' then ['\n'] else []

/-- Between three double quotes. -/
def longBasic (cs : List Char) : List Char :=
  ['"', '"', '"'] ++ opening cs ++ escapedFrom 2 0 cs ++ ['"', '"', '"']

/-- Between three single quotes. -/
def longLiteral (cs : List Char) : List Char :=
  ['\'', '\'', '\''] ++ opening cs ++ cs ++ ['\'', '\'', '\'']

/-- A string. -/
def writeString (s : String) : List Char :=
  let cs := s.toList
  let control := cs.any isControl
  let backslash := cs.contains '\\'
  let newline := cs.contains '\n'
  let doubles := longestRun '"' 0 cs
  let singles := longestRun '\'' 0 cs
  if !control && !backslash && doubles = 0 && !newline then basic cs
  else if !control && singles = 0 && !newline then literal cs
  else if !control && !backslash && doubles ≤ 2 then longBasic cs
  else if !control && singles ≤ 2 then longLiteral cs
  else if newline then longBasic cs
  else basic cs

/-- Whether a character may stand in a key without quotes. -/
def isPlain (c : Char) : Bool :=
  c.isAlphanum || c = '-' || c = '_'

/-- A key. -/
def writeKey (s : String) : List Char :=
  let cs := s.toList
  let control := cs.any fun c => isControl c || c = '\n'
  if !cs.isEmpty && cs.all isPlain then cs
  else if !control && !cs.contains '\\' && !cs.contains '"' then basic cs
  else if !control && !cs.contains '\'' then literal cs
  else basic cs

/-- A list of strings: one item on the same line, several on lines of their own. -/
def writeArray : List String → List Char
  | [] => ['[', ']']
  | [s] => '[' :: writeString s ++ [']']
  | items =>
    '[' :: '\n' :: items.flatMap (fun s => ' ' :: ' ' :: ' ' :: ' ' :: writeString s ++ [',', '\n'])
      ++ [']']

/-- A natural number. -/
def writeNat (n : Nat) : List Char :=
  Decimal.digitsOf n

/-- The line of an entry. -/
def writePair (name : String) (value : List Char) : List Char :=
  writeKey name ++ [' ', '=', ' '] ++ value ++ ['\n']

/-- The line of a header, where the names of the key need no quotes. -/
def writeHeader (key : List String) : List Char :=
  '[' :: (".".intercalate key).toList ++ [']', '\n']

end CompileIndex.Toml
