import CompileIndex.Toml.Lexeme
import CompileIndex.Toml.Table

/-!
# Reading TOML documents

A document is a list of lines: entries, headers of tables, and headers of tables in arrays.

* `readValue` — a value on the right of an equals sign;
* `readStatement` — one line that says something;
* `parse` — the table that a document is, `none` when it is malformed.
-/

namespace CompileIndex.Toml

/-- How many brackets and braces a value may open inside each other. -/
def depthLimit : Nat := 79

/-- The rest of an array, each item read by `item`.  `n` bounds the number of items. -/
def readItems (item : List Char → Option (Value × List Char)) :
    Nat → List Char → Option (List Value × List Char)
  | 0, _ => none
  | n + 1, s => do
    match ← skipGaps s.length s with
    | ']' :: r => return ([], r)
    | s =>
      let (v, r) ← item s
      match ← skipGaps r.length r with
      | ',' :: r => do
        let (vs, r) ← readItems item n r
        return (v :: vs, r)
      | ']' :: r => return ([v], r)
      | _ => none

/-- An entry: a key, an equals sign and a value read by `item`. -/
def readEntry (item : List Char → Option (Value × List Char)) (s : List Char) :
    Option ((List String × Value) × List Char) := do
  let (key, r) ← readKey s
  let r ← expect '=' r
  let (v, r) ← item (skipSpace r)
  return ((key, v), r)

/-- The rest of a table in braces behind its first `entries`.  `n` bounds the number of
entries. -/
def readBraced (item : List Char → Option (Value × List Char)) :
    Nat → Entries → List Char → Option (List (String × Value) × List Char)
  | 0, _, _ => none
  | n + 1, entries, s => do
    let ((key, v), r) ← readEntry item s
    let entries ← entries.addPair key v .header
    match skipSpace r with
    | ',' :: r => readBraced item n entries r
    | '\x7d' :: r => return (entries.toValue, r)
    | _ => none

/-- A value that opens at most `depth` brackets inside each other. -/
def readValue (depth : Nat) (s : List Char) : Option (Value × List Char) :=
  match s with
  | [] => none
  | '[' :: r =>
    match depth with
    | 0 => none
    | depth + 1 =>
      (readItems (readValue depth) (r.length + 1) r).map fun (items, r) => (.array items, r)
  | '\x7b' :: r =>
    match depth with
    | 0 => none
    | depth + 1 =>
      match skipSpace r with
      | '\x7d' :: r => some (.table [], r)
      | r =>
        (readBraced (readValue depth) (r.length + 1) [] r).map fun (entries, r) =>
          (.table entries, r)
  | 't' :: 'r' :: 'u' :: 'e' :: r => some (.bool true, r)
  | 'f' :: 'a' :: 'l' :: 's' :: 'e' :: r => some (.bool false, r)
  | c :: _ =>
    if c = '"' || c = '\'' then (readString s).map fun (t, r) => (.string t, r)
    else readNumber s

/-- What one line says. -/
inductive Statement where
  | pair (key : List String) (v : Value)
  | header (key : List String)
  | arrayHeader (key : List String)

/-- One line that says something, with its end. -/
def readStatement (s : List Char) : Option (Statement × List Char) :=
  match s with
  | '[' :: '[' :: r => do
    let (key, r) ← readKey r
    let r ← expect ']' (← expect ']' r)
    return (.arrayHeader key, ← endLine r)
  | '[' :: r => do
    let (key, r) ← readKey r
    return (.header key, ← endLine (← expect ']' r))
  | _ => do
    let ((key, v), r) ← readEntry (readValue depthLimit) s
    return (.pair key v, ← endLine r)

/-- At most `n` lines that say something, and the blank ones between them. -/
def readStatements : Nat → List Char → Option (List Statement)
  | 0, s => if s.isEmpty then some [] else none
  | n + 1, s => do
    match skipSpace s with
    | [] => return []
    | '#' :: r => readStatements n (← endLine ('#' :: r))
    | '\n' :: r => readStatements n r
    | '\r' :: r => readStatements n (← newline? ('\r' :: r))
    | r =>
      let (statement, r) ← readStatement r
      return statement :: (← readStatements n r)

/-- A document that was read so far, and the key of the table that entries go to. -/
structure Reading where
  entries : Entries
  current : List String

/-- One statement more. -/
def Reading.step (d : Reading) : Statement → Option Reading
  | .pair key v =>
    (Entries.descend false (fun origin => Entries.addPair key v origin) .header d.current
      d.entries).map fun entries => { d with entries }
  | .header key => (d.entries.addTable key).map fun entries => ⟨entries, key⟩
  | .arrayHeader key => (d.entries.addArrayTable key).map fun entries => ⟨entries, key⟩

/-- The table that a list of statements makes. -/
def build (statements : List Statement) : Option (List (String × Value)) :=
  (statements.foldlM Reading.step ⟨[], []⟩).map fun d => d.entries.toValue

/-- A text without the mark that some editors put in front. -/
def dropMark (s : List Char) : List Char :=
  match s with
  | c :: r => if c.toNat = 0xfeff then r else s
  | [] => []

/-- The table that a document is. -/
def parse (text : String) : Option (List (String × Value)) := do
  let s := dropMark text.toList
  build (← readStatements (s.length + 1) s)

end CompileIndex.Toml
