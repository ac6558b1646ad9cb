import CompileIndex.Toml.Value

/-!
# Layers of settings

Settings come in layers: a settings file and the environment.  A layer is a tree of values, each
of which remembers the layer that it comes from.  Of two layers the later one wins leaf by leaf,
where tables are merged name by name.

* `Layered.merge` — a layer over another one;
* `Layered.ofToml` — the layer of a settings file;
* `Layered.nest` — a value under a path of names.
-/

namespace CompileIndex

/-- The layer that a value comes from. -/
inductive Layer where
  | file | environment
  deriving DecidableEq, Repr

/-- A value without parts. -/
inductive Leaf where
  | text (s : String)
  | bool (b : Bool)
  | signed (n : Int)
  | unsigned (n : Nat)
  | float (x : Float)

/-- A tree of values with the layers that they come from.  Tables are sorted by name. -/
inductive Layered where
  | leaf (layer : Layer) (v : Leaf)
  | list (layer : Layer) (items : List Layered)
  | table (layer : Layer) (entries : List (String × Layered))

namespace Layered

/-- The layer that a value comes from. -/
def layer : Layered → Layer
  | leaf l _ => l
  | list l _ => l
  | table l _ => l

/-- The value of a name put into a sorted table, instead of an old one. -/
def put (name : String) (v : Layered) : List (String × Layered) → List (String × Layered)
  | [] => [(name, v)]
  | (n, old) :: rest =>
    if name < n then (name, v) :: (n, old) :: rest
    else if name = n then (name, v) :: rest
    else (n, old) :: put name v rest

mutual

/-- The second value over the first. -/
def merge (below : Layered) : Layered → Layered
  | table l entries =>
    match below with
    | table _ old => table l (mergeEntries old entries)
    | _ => table l entries
  | other => other

/-- The entries of the second table over those of the first. -/
def mergeEntries (old : List (String × Layered)) :
    List (String × Layered) → List (String × Layered)
  | [] => old
  | (name, v) :: rest =>
    let merged := match old.lookup name with
      | some below => merge below v
      | none => v
    mergeEntries (put name merged old) rest

end

/-- A value under a path of names. -/
def nest (layer : Layer) (path : List String) (v : Layered) : Layered :=
  path.foldr (fun name inner => table layer [(name, inner)]) v

/-- The name under which a date or a time is found in the table that stands for it. -/
def datetimeName : String := "$__toml_private_datetime"

mutual

/-- The values of a settings file. -/
def ofToml : Toml.Value → Layered
  | .string s => leaf .file (.text s)
  | .integer n => leaf .file (.signed n.toInt)
  | .float x => leaf .file (.float x)
  | .bool b => leaf .file (.bool b)
  | .datetime t => table .file [(datetimeName, leaf .file (.text t))]
  | .array items => list .file (ofTomlItems items)
  | .table entries => table .file (ofTomlEntries entries)

/-- The items of a list of a settings file. -/
def ofTomlItems : List Toml.Value → List Layered
  | [] => []
  | v :: rest => ofToml v :: ofTomlItems rest

/-- The entries of a table of a settings file. -/
def ofTomlEntries : List (String × Toml.Value) → List (String × Layered)
  | [] => []
  | (name, v) :: rest => put name (ofToml v) (ofTomlEntries rest)

end

end Layered

end CompileIndex
