import CompileIndex.Decimal.Notation
import CompileIndex.Settings.Layer
import CompileIndex.Text.Blank
import CompileIndex.Text.Lowercase
import CompileIndex.Text.Utf8
import CompileIndex.Toml.Lexeme

/-!
# Settings in the environment

A variable whose name begins with `CCINDEX_`, in upper or lower case, sets one value.  The rest
of its name, in lower case, is the path of the value: two underscores, or a dot, lead into a
table.  A name with an empty part is no path.

The text of the variable is read as `true`, `false`, a quoted string, a character between single
quotes, a list in brackets, a table in braces, a number with a point, or a whole number; any
other text is itself without the blanks around it.  A text that begins like one of these and goes
on otherwise is taken as it is.  What stands in a quoted string in front of its first escape is
cut to as many bytes as it has characters.

* `Variable.path?` — the path that a name spells;
* `Variable.read` — the value that a text spells;
* `Variable.layer` — the layer of an environment.
-/

namespace CompileIndex.Variable

/-! ### Values -/

/-- Whether a character separates words. -/
def isSpace (c : Char) : Bool :=
  c = ' ' || c = '\t' || c = '\n' || c = '\r' || c.toNat = 12

/-- The text behind blanks. -/
def skipSpace (s : List Char) : List Char :=
  s.dropWhile isSpace

/-- Whether a character ends a word. -/
def isSeparator (c : Char) : Bool :=
  c = ',' || c = '\x7b' || c = '\x7d' || c = '[' || c = ']'

/-- Whether a character may stand in a name. -/
def isNameChar (c : Char) : Bool :=
  c.isAlphanum || c = '_' || c = '-'

/-- A whole number of decimal digits. -/
def digits? (ds : List Char) : Option Nat :=
  if ds.isEmpty || !ds.all (fun c => c.isDigit) then none
  else some (ds.foldl (fun n c => 10 * n + (c.toNat - 48)) 0)

/-- A number without sign in 64 bits. -/
def unsigned? (t : List Char) : Option Nat := do
  let n ← digits? (match t with
    | '+' :: r => r
    | r => r)
  if n < 0x10000000000000000 then some n else none

/-- A number with a minus sign in 64 bits. -/
def negative? (t : List Char) : Option Int :=
  match t with
  | '-' :: r => do
    let n ← digits? r
    if n ≤ 0x8000000000000000 then some (Int.negOfNat n) else none
  | _ => none

/-- The exponent of a number, behind its letter. -/
def exponent? (t : List Char) : Option Int :=
  match t with
  | '-' :: r => (digits? r).map Int.negOfNat
  | '+' :: r => (digits? r).map Int.ofNat
  | r => (digits? r).map Int.ofNat

/-- A number with a point. -/
def float? (t : List Char) : Option Float := do
  let (minus, r) := Toml.takeSign t
  let whole := r.takeWhile (fun c => c.isDigit)
  let r := r.dropWhile (fun c => c.isDigit)
  let (fraction, r) ← match r with
    | '.' :: r => some (r.takeWhile (fun c => c.isDigit), r.dropWhile (fun c => c.isDigit))
    | _ => none
  let n ← digits? (whole ++ fraction)
  let e ← match r with
    | [] => some 0
    | 'e' :: r => exponent? r
    | 'E' :: r => exponent? r
    | _ => none
  let x := Decimal.nearest n (e - fraction.length)
  return if minus then -x else x

/-- The value of a word. -/
def wordValue (word : List Char) : Leaf :=
  let t := Text.trim word
  match if t.contains '.' then float? t else none with
  | some x => .float x
  | none =>
    match unsigned? t with
    | some n => .unsigned n
    | none =>
      match negative? t with
      | some n => .signed n
      | none => .text (String.ofList t)

/-- The characters in front of the first escape of a string: all of them in a string without
escapes, else as many as fit into one byte for each of them. -/
def keptLead (s : List Char) : List Char × Nat :=
  let lead := s.takeWhile fun c => c ≠ '"' && c ≠ '\\'
  match s.drop lead.length with
  | '\\' :: _ => ((Text.Utf8.splitBytes lead.length lead).1, lead.length)
  | _ => (lead, lead.length)

/-- A string between double quotes. -/
def readQuoted (s : List Char) : Option (String × List Char) :=
  match s with
  | '"' :: r => do
    let (cs, rest) ← Toml.readBasic (r.length + 1) r
    let (lead, length) := keptLead r
    return (String.ofList (lead ++ cs.drop length), rest)
  | _ => none

/-- The items up to `close`, each read by `item`, with commas between them.  `n` bounds the
number of items. -/
def readItems {α : Type} (item : List Char → Option (α × List Char)) (close : Char) :
    Nat → List Char → Option (List α × List Char)
  | 0, _ => none
  | n + 1, s =>
    let item := do
      let (x, r) ← item s
      match r with
      | c :: r =>
        if c = ',' then do
          let (xs, r) ← readItems item close n r
          return (x :: xs, r)
        else if c = close then return ([x], r)
        else none
      | [] => none
    match s with
    | c :: r => if c = close then some ([], r) else item
    | [] => item

/-- A name, an equals sign and a value read by `item`. -/
def readEntry {α : Type} (item : List Char → Option (α × List Char)) (s : List Char) :
    Option ((String × α) × List Char) := do
  let s := skipSpace s
  let (name, r) ← match s with
    | '"' :: _ => readQuoted s
    | _ =>
      let name := s.takeWhile isNameChar
      if name.isEmpty then none else some (String.ofList name, s.dropWhile isNameChar)
  match skipSpace r with
  | '=' :: r =>
    let (v, r) ← item r
    return ((name, v), skipSpace r)
  | _ => none

/-- A value that is not bracketed. -/
def readPlain (s : List Char) : Option (Leaf × List Char) :=
  match s with
  | 't' :: 'r' :: 'u' :: 'e' :: r => some (.bool true, r)
  | 'f' :: 'a' :: 'l' :: 's' :: 'e' :: r => some (.bool false, r)
  | '"' :: _ => (readQuoted s).map fun (t, r) => (.text t, r)
  | '\'' :: c :: '\'' :: r => some (.text (String.ofList [c]), r)
  | '\'' :: _ => none
  | _ =>
    some (wordValue (s.takeWhile fun c => !isSeparator c), s.dropWhile fun c => !isSeparator c)

/-- A value and the blanks around it.  `n` bounds how many brackets are open. -/
def readValue (n : Nat) (s : List Char) : Option (Layered × List Char) := do
  let s := skipSpace s
  let (v, r) ← match s with
    | '[' :: r =>
      match n with
      | 0 => none
      | n + 1 =>
        (readItems (readValue n) ']' (r.length + 1) r).map fun (items, r) =>
          (Layered.list .environment items, r)
    | '\x7b' :: r =>
      match n with
      | 0 => none
      | n + 1 =>
        (readItems (readEntry (readValue n)) '\x7d' (r.length + 1) r).map fun (entries, r) =>
          (Layered.table .environment
            (entries.foldl (fun sorted e => Layered.put e.1 e.2 sorted) []), r)
    | _ => (readPlain s).map fun (v, r) => (Layered.leaf .environment v, r)
  return (v, skipSpace r)

/-- The value that the text of a variable spells. -/
def read (text : String) : Layered :=
  match readValue (text.length + 1) text.toList with
  | some (v, []) => v
  | _ => .leaf .environment (.text text)

/-! ### Names -/

/-- What the names of the variables begin with. -/
def lead : String := "CCINDEX_"

/-- A text without `start`, in upper or lower case, in front of it. -/
def dropStart? (start : List Char) (t : List Char) : Option (List Char) :=
  match start, t with
  | [], t => some t
  | _ :: _, [] => none
  | s :: start, c :: t => if s.toLower = c.toLower then dropStart? start t else none

/-- A text with a dot for every two underscores. -/
def dotted : List Char → List Char
  | '_' :: '_' :: rest => '.' :: dotted rest
  | c :: rest => c :: dotted rest
  | [] => []

/-- The path that the name of a variable spells. -/
def path? (name : String) : Option (List String) := do
  let rest ← dropStart? lead.toList (Text.trim name.toList)
  let parts := (Text.trim (dotted (Text.lowercase rest))).splitOn '.'
  if parts.any List.isEmpty then none else some (parts.map String.ofList)

/-- The layer of an environment, which is its variables in order; later ones win. -/
def layer (environment : List (String × String)) : Layered :=
  environment.foldl
    (fun below v =>
      match path? v.1 with
      | some path => below.merge (.nest .environment path (read v.2))
      | none => below)
    (.table .environment [])

end CompileIndex.Variable
