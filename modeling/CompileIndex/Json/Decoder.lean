import CompileIndex.Json.Reader
import CompileIndex.Path

/-!
# Reading values of a declared shape

A `Decoder` reads one value of a known shape straight from the text.  A fault names the kind
of value that was wanted.  Records are read from objects, in any order of the members, and from
arrays, in the order of the fields; their fields are declared one by one as `Fields`.

* `Decoder.text`, `path`, `natural`, `integer`, `any` — single values;
* `Decoder.list`, `optional`, `word`, `table` — lists, values that may be null, words of a
  closed list, and objects with free names;
* `Decoder.record` — records;
* `Decoder.decode` — a whole text.
-/

namespace CompileIndex.Json

/-- Reads one value of a known shape; the number says how many brackets it may open. -/
abbrev Decoder (α : Type) := Nat → List Char → Except Fault (α × List Char)

/-- The fault of a value of another kind than the wanted one. -/
def mismatch (wanted : String) (s : List Char) : Fault :=
  match s with
  | [] => .at .endInValue []
  | c :: _ =>
    if c = '[' then .before (.wrongKind .array wanted) s
    else if c = '\x7b' then .before (.wrongKind .object wanted) s
    else match readScalar s with
      | .ok (v, r) => .before (.wrongKind (found v) wanted) r
      | .error fault => fault

namespace Decoder

variable {α β : Type}

/-- What a decoder reads, changed by `f`. -/
def map (f : α → β) (d : Decoder α) : Decoder β := fun depth s => do
  let (x, r) ← d depth s
  return (f x, r)

/-- A string; `wanted` names it in faults. -/
def textAs (wanted : String) : Decoder String := fun _ s =>
  match skipBlanks s with
  | [] => .error (.at .endInValue [])
  | c :: r =>
    if c = '"' then do
      let (cs, r) ← readString r
      return (String.ofList cs, r)
    else .error (mismatch wanted (c :: r))

/-- A string. -/
def text : Decoder String :=
  textAs "a string"

/-- A string that is the text of a path. -/
def path : Decoder Path :=
  (textAs "path string").map Path.mk

/-- An integer that `accept` turns into a value. -/
def integerAs (wanted : String) (accept : Int → Option α) : Decoder α := fun _ s =>
  match skipBlanks s with
  | [] => .error (.at .endInValue [])
  | c :: r =>
    if c = '-' || isDigit c then do
      match ← readNumber (c :: r) with
      | (.integer n, r) =>
        match accept n.value with
        | some x => return (x, r)
        | none => .error (.before (.wrongValue (.integer n.value) wanted) r)
      | (.float x, r) => .error (.before (.wrongKind (.float x) wanted) r)
    else .error (mismatch wanted (c :: r))

/-- An integer of 32 bits without sign. -/
def natural32 : Decoder UInt32 :=
  integerAs "u32" fun n => if 0 ≤ n ∧ n < 0x100000000 then some (UInt32.ofNat n.toNat) else none

/-- An integer of 64 bits without sign. -/
def natural64 : Decoder UInt64 :=
  integerAs "u64" fun n =>
    if 0 ≤ n ∧ n < 0x10000000000000000 then some (UInt64.ofNat n.toNat) else none

/-- An integer of 64 bits with a sign. -/
def integer64 : Decoder Int64 :=
  integerAs "i64" fun n =>
    if -0x8000000000000000 ≤ n ∧ n < 0x8000000000000000 then some (Int64.ofInt n) else none

/-- A value of any shape. -/
def any : Decoder Json :=
  readValue

/-- A list of values; `wanted` names it in faults. -/
def listAs (wanted : String) (item : Decoder α) : Decoder (List α) := fun depth s =>
  match skipBlanks s with
  | [] => .error (.at .endInValue [])
  | c :: r =>
    if c = '[' then
      match depth with
      | 0 => .error (.at .tooDeep (c :: r))
      | depth + 1 => do
        let (xs, r) ← readItems (item depth) (r.length + 1) true r
        return (xs, ← closeArray r)
    else .error (mismatch wanted (c :: r))

/-- A list of values. -/
def list (item : Decoder α) : Decoder (List α) :=
  listAs "a sequence" item

/-- A value or null. -/
def optional (d : Decoder α) : Decoder (Option α) := fun depth s =>
  match skipBlanks s with
  | 'n' :: r => do return (none, ← readWord ['u', 'l', 'l'] r)
  | r => do
    let (x, r) ← d depth r
    return (some x, r)

/-- Null. -/
def nothing : Decoder Unit := fun _ s =>
  match skipBlanks s with
  | [] => .error (.at .endInValue [])
  | c :: r =>
    if c = 'n' then do return ((), ← readWord ['u', 'l', 'l'] r)
    else .error (mismatch "unit" (c :: r))

/-- One of the words of a closed list. -/
def plainWord (words : List (String × α)) : Decoder α := fun depth s => do
  let (w, r) ← textAs "variant identifier" depth s
  match words.lookup w with
  | some x => return (x, r)
  | none => .error (.before (.unknownWord w (words.map (·.1))) r)

/-- One of the words of a closed list, alone or as the name of the one member, null, of an
object. -/
def word (words : List (String × α)) : Decoder α := fun depth s =>
  match skipBlanks s with
  | [] => .error (.at .endInValue [])
  | c :: r =>
    if c = '\x7b' then
      match depth with
      | 0 => .error (.at .tooDeep (c :: r))
      | depth + 1 => do
        let (x, r) ← plainWord words depth r
        let r ← readColon r
        let (_, r) ← nothing depth r
        match skipBlanks r with
        | [] => .error (.before .endInObject [])
        | d :: r => if d = '\x7d' then return (x, r) else .error (.before .expectedValue (d :: r))
    else if c = '"' then plainWord words depth (c :: r)
    else .error (.at .expectedValue (c :: r))

/-- An object with free names, as names and values in the order of the text; a later member of
a name takes the place of the earlier one. -/
def table (item : Decoder α) (put : String → α → β → β) (empty : β) : Decoder β := fun depth s =>
  match skipBlanks s with
  | [] => .error (.at .endInValue [])
  | c :: r =>
    if c = '\x7b' then
      match depth with
      | 0 => .error (.at .tooDeep (c :: r))
      | depth + 1 => do
        let member gathered name s := do
          let (x, s) ← item depth (← readColon s)
          return (put name x gathered, s)
        let (gathered, r) ← readMembers member (r.length + 1) true empty r
        return (gathered, ← closeObject r)
    else .error (mismatch "a map" (c :: r))

end Decoder

/-- A field of a record. -/
structure Field (α : Type) where
  name : String
  read : Decoder α
  /-- The value in an object without the member. -/
  unset : Option α
  /-- The value in an array that ends before the item. -/
  cut : Option α

namespace Field

variable {α : Type}

/-- A field that has to be given. -/
def required (name : String) (read : Decoder α) : Field α :=
  ⟨name, read, none, none⟩

/-- A field with a value for the case that it is not given. -/
def withDefault (name : String) (read : Decoder α) (value : α) : Field α :=
  ⟨name, read, some value, some value⟩

/-- A field that an object may lack, or hold as null. -/
def optional (name : String) (read : Decoder α) : Field (Option α) :=
  ⟨name, read.optional, some none, none⟩

end Field

/-- The fields of a record: `δ` holds those read so far, `τ` holds all of them. -/
inductive Fields : Type → Type → Type 1 where
  | nil : Fields Unit Unit
  | cons {α δ τ : Type} (field : Field α) (rest : Fields δ τ) : Fields (Option α × δ) (α × τ)

namespace Fields

variable {δ τ : Type}

/-- No field read. -/
def start : {δ τ : Type} → Fields δ τ → δ
  | _, _, nil => ()
  | _, _, cons _ rest => (none, rest.start)

/-- The number of fields. -/
def count : {δ τ : Type} → Fields δ τ → Nat
  | _, _, nil => 0
  | _, _, cons _ rest => rest.count + 1

/-- Where a fault of a whole object is placed when `s` is left: behind the brace if the object
ends there. -/
def settle (s : List Char) : List Char :=
  match skipBlanks s with
  | '\x7d' :: r => r
  | r => r

/-- One member of an object, from the text behind its name on.  Members that are no field are
skipped. -/
def readMember : {δ τ : Type} → Fields δ τ → Nat → δ → String → List Char →
    Except Fault (δ × List Char)
  | _, _, nil, _, read, _, s => do
    let s ← readColon s
    return (read, ← skipAny s)
  | _, _, cons field rest, depth, read, name, s =>
    if name = field.name then
      match read.1 with
      | some _ => .error (.before (.repeatedMember name) (settle s))
      | none => do
        let s ← readColon s
        let (x, s) ← field.read depth s
        return ((some x, read.2), s)
    else do
      let (more, s) ← rest.readMember depth read.2 name s
      return ((read.1, more), s)

/-- All fields, those not read filled in; else the name of the first that is missing. -/
def finish : {δ τ : Type} → Fields δ τ → δ → Except String τ
  | _, _, nil, _ => .ok ()
  | _, _, cons field rest, read =>
    match read.1 with
    | some x => do return (x, ← rest.finish read.2)
    | none =>
      match field.unset with
      | some x => do return (x, ← rest.finish read.2)
      | none => .error field.name

/-- The result of reading items: a value, a fault, or an array that is too short, with the
number of items in it. -/
inductive Outcome (τ : Type) where
  | done (value : τ) (s : List Char)
  | fault (f : Fault)
  | short (length : Nat) (s : List Char)

/-- The fields as items of an array, of which `n` were read. -/
def readItems : {δ τ : Type} → Fields δ τ → Nat → Nat → List Char → Outcome τ
  | _, _, nil, _, _, s => .done () s
  | _, _, cons field rest, depth, n, s =>
    let given (s : List Char) : Outcome _ :=
      match field.read depth s with
      | .error f => .fault f
      | .ok (x, s) =>
        match rest.readItems depth (n + 1) s with
        | .done xs s => .done (x, xs) s
        | .fault f => .fault f
        | .short k s => .short k s
    match skipBlanks s with
    | [] => .fault (.at .endInArray [])
    | c :: r =>
      if c = ']' then
        match field.cut with
        | none => .short n (c :: r)
        | some x =>
          match rest.readItems depth (n + 1) (c :: r) with
          | .done xs s => .done (x, xs) s
          | .fault f => .fault f
          | .short k s => .short k s
      else if n = 0 then given (c :: r)
      else if c = ',' then
        match skipBlanks r with
        | [] => .fault (.at .endInValue [])
        | d :: r => if d = ']' then .fault (.at .trailingComma (d :: r)) else given (d :: r)
      else .fault (.at .expectedCommaOrBracket (c :: r))

end Fields

namespace Decoder

variable {α δ τ : Type}

/-- A record called `name`; `make` builds it from its fields. -/
def record (name : String) (fields : Fields δ τ) (make : τ → α) : Decoder α := fun depth s =>
  match skipBlanks s with
  | [] => .error (.at .endInValue [])
  | c :: r =>
    if c = '[' then
      match depth with
      | 0 => .error (.at .tooDeep (c :: r))
      | depth + 1 =>
        match fields.readItems depth 0 r with
        | .done value r => do return (make value, ← closeArray r)
        | .fault f => .error f
        | .short n r =>
          let wanted := "struct " ++ name ++ " with " ++ toString fields.count
            ++ (if fields.count = 1 then " element" else " elements")
          .error (.before (.wrongLength n wanted) (r.drop 1))
    else if c = '\x7b' then
      match depth with
      | 0 => .error (.at .tooDeep (c :: r))
      | depth + 1 => do
        let (read, r) ← readMembers (fields.readMember depth) (r.length + 1) true fields.start r
        match fields.finish read with
        | .ok value => return (make value, ← closeObject r)
        | .error missing => .error (.before (.missingMember missing) (Fields.settle r))
    else .error (mismatch ("struct " ++ name) (c :: r))

/-- What a decoder makes of a whole text. -/
def decode (d : Decoder α) (text : String) : Except Fault α :=
  readWhole (d depthLimit) text.toList

end Decoder

end CompileIndex.Json
