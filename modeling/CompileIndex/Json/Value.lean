import CompileIndex.Decimal.Notation

/-!
# JSON values

A value keeps the members of an object in the order in which they are written.  Values that
were read, and values that are handed on without a declared shape, hold them sorted by name
with one member per name.

* `Json` — values; integers between `-2^63` and `2^64` are exact, all other numbers are doubles;
* `Json.insert` — a member put into a sorted object, the last one of a name staying;
* `Json.sorted` — a value with all its objects sorted;
* `Json.describe` — the kind of a value as messages name it.
-/

namespace CompileIndex

/-- An integer that JSON texts keep exact. -/
structure WideInt where
  value : Int
  low : -0x8000000000000000 ≤ value
  high : value < 0x10000000000000000
  deriving DecidableEq

/-- An integer, when it is in range. -/
def WideInt.ofInt? (n : Int) : Option WideInt :=
  if h : -0x8000000000000000 ≤ n ∧ n < 0x10000000000000000 then some ⟨n, h.1, h.2⟩ else none

/-- A JSON value. -/
inductive Json where
  | null
  | bool (b : Bool)
  | integer (n : WideInt)
  | float (x : Float)
  | string (s : String)
  | array (items : List Json)
  | object (members : List (String × Json))

namespace Json

instance : Inhabited Json := ⟨null⟩

/-- An integer; one out of range becomes a double. -/
def ofInt (n : Int) : Json :=
  match WideInt.ofInt? n with
  | some i => integer i
  | none =>
    let x := Decimal.nearest n.natAbs 0
    float (if n < 0 then -x else x)

/-- A natural number; one too great to be kept exact becomes a double. -/
def ofNat (n : Nat) : Json :=
  ofInt n

/-- A list of strings. -/
def strings (items : List String) : Json :=
  array (items.map string)

/-- A member put into members sorted by name.  It takes the place of one of its name. -/
def insert (name : String) (value : Json) : List (String × Json) → List (String × Json)
  | [] => [(name, value)]
  | (n, v) :: rest =>
    if name < n then (name, value) :: (n, v) :: rest
    else if name = n then (name, value) :: rest
    else (n, v) :: insert name value rest

/-- Members sorted by name, the last one of a name staying. -/
def sortMembers (members : List (String × Json)) : List (String × Json) :=
  members.foldl (fun sorted m => insert m.1 m.2 sorted) []

mutual

/-- A value with all its objects sorted. -/
def sorted : Json → Json
  | array items => array (sortedItems items)
  | object members => object (sortMembers (sortedMembers members))
  | other => other

/-- Values with all their objects sorted. -/
def sortedItems : List Json → List Json
  | [] => []
  | v :: rest => sorted v :: sortedItems rest

/-- Members whose values have all their objects sorted. -/
def sortedMembers : List (String × Json) → List (String × Json)
  | [] => []
  | (n, v) :: rest => (n, sorted v) :: sortedMembers rest

end

/-- The value of a member, the first one of its name. -/
def lookup (name : String) : List (String × Json) → Option Json
  | [] => none
  | (n, v) :: rest => if n = name then some v else lookup name rest

/-- The member of an object with a name. -/
def member? (v : Json) (name : String) : Option Json :=
  match v with
  | object members => lookup name members
  | _ => none

/-- The kind of a value as messages name it. -/
def describe : Json → String
  | null => "null"
  | bool _ => "a boolean"
  | integer _ => "a number"
  | float _ => "a number"
  | string _ => "a string"
  | array _ => "an array"
  | object _ => "an object"

end Json

end CompileIndex
