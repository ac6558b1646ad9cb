import CompileIndex.Toml.Value

/-!
# Tables under construction

A document, and a table inside braces, is put together entry by entry.  Every table remembers
how it came about, because that decides what may be added to it: a table that a header or braces
gave is closed for dotted keys, one that only a longer header named may still get its own
header, and one that a dotted key named may not.

* `Entries.addPair` — an entry under a dotted key;
* `Entries.addTable`, `Entries.addArrayTable` — a table for a header;
* `Entries.toValue` — the finished table.

All of them give `none` when a name would be given twice.
-/

namespace CompileIndex.Toml

/-- How a table came about. -/
inductive Origin where
  /-- By a header of its own. -/
  | header
  /-- By a header of a table inside it. -/
  | passing
  /-- By a dotted key. -/
  | dotted
  deriving DecidableEq

/-- What a name stands for in a table under construction. -/
inductive Node where
  | leaf (v : Value)
  | table (origin : Origin) (entries : List (String × Node))
  /-- Tables that share a header in double brackets, the last one first. -/
  | tables (items : List (List (String × Node)))

/-- The names of a table under construction. -/
abbrev Entries := List (String × Node)

namespace Entries

/-- The entry of a name, put in or replaced. -/
def put (name : String) (n : Node) : Entries → Entries
  | [] => [(name, n)]
  | (k, old) :: rest => if k = name then (k, n) :: rest else (k, old) :: put name n rest

/-- `change` applied to the table that a path of names leads to.  Missing tables on the way are
made; along dotted keys no table with a header may be entered. -/
def descend (dotted : Bool) (change : Origin → Entries → Option Entries) :
    Origin → List String → Entries → Option Entries
  | origin, [], entries => change origin entries
  | _, name :: path, entries =>
    match entries.lookup name with
    | none =>
      let origin := if dotted then .dotted else .passing
      (descend dotted change origin path []).map fun inner =>
        entries.put name (.table origin inner)
    | some (.leaf _) => none
    | some (.table origin inner) =>
      if dotted && origin = .header then none
      else (descend dotted change origin path inner).map fun inner =>
        entries.put name (.table origin inner)
    | some (.tables []) => none
    | some (.tables (last :: earlier)) =>
      (descend dotted change .header path last).map fun last =>
        entries.put name (.tables (last :: earlier))

/-- A value added under a key without dots.  Behind a dotted key the table has to be one that
dotted keys made. -/
def addLeaf (behindDots : Bool) (name : String) (v : Value) (origin : Origin)
    (entries : Entries) : Option Entries :=
  if behindDots && origin ≠ .dotted then none
  else match entries.lookup name with
    | some _ => none
    | none => some (entries.put name (.leaf v))

/-- A value added under a dotted key. -/
def addPair (key : List String) (v : Value) (origin : Origin) (entries : Entries) :
    Option Entries :=
  match key.getLast? with
  | none => none
  | some name =>
    let path := key.dropLast
    descend true (addLeaf (!path.isEmpty) name v) origin path entries

/-- The table of a header added, where `key` leads to it. -/
def addTable (key : List String) (entries : Entries) : Option Entries :=
  match key.getLast? with
  | none => none
  | some name =>
    descend false
      (fun _ entries =>
        match entries.lookup name with
        | none => some (entries.put name (.table .header []))
        | some (.table .passing inner) => some (entries.put name (.table .header inner))
        | some _ => none)
      .header key.dropLast entries

/-- A table of a header in double brackets added, where `key` leads to it. -/
def addArrayTable (key : List String) (entries : Entries) : Option Entries :=
  match key.getLast? with
  | none => none
  | some name =>
    descend false
      (fun _ entries =>
        match entries.lookup name with
        | none => some (entries.put name (.tables [[]]))
        | some (.tables items) => some (entries.put name (.tables ([] :: items)))
        | some _ => none)
      .header key.dropLast entries

end Entries

mutual

/-- What a name stands for in the finished table. -/
def Node.toValue : Node → Value
  | .leaf v => v
  | .table _ entries => .table (finished entries)
  | .tables items => .array (finishedTables items).reverse

/-- The entries of a finished table. -/
def finished : List (String × Node) → List (String × Value)
  | [] => []
  | (name, n) :: rest => (name, n.toValue) :: finished rest

/-- Finished tables. -/
def finishedTables : List (List (String × Node)) → List Value
  | [] => []
  | entries :: rest => .table (finished entries) :: finishedTables rest

end

/-- The finished table. -/
def Entries.toValue (entries : Entries) : List (String × Value) :=
  finished entries

end CompileIndex.Toml
