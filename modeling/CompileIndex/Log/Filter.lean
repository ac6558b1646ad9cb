import CompileIndex.Log
import CompileIndex.Log.Pattern
import CompileIndex.Text.Utf8

/-!
# Log filters

A filter is a list of directives separated by commas.  A directive gives a level to all parts
of the program, or to those whose name begins with a target, and perhaps only to events that
carry a field: `target[span{field=value}]=level`, where parts may be missing.  Of the directives
that fit an event the one with the longest target decides; of two with the same target the one
with a field, and else the later one.

* `Limit.ofText?` — a level or `off`, by name or by number;
* `Directive.parse` — one directive, or why it is none;
* `Filter.parse` — a filter, and complaints about what was left out;
* `Filter.admits` — whether an event gets past.
-/

namespace CompileIndex.Log

/-- The least urgent level that gets past; `none` keeps everything back. -/
abbrev Limit := Option Level

namespace Limit

/-- Whether a level gets past a limit. -/
def admits (limit : Limit) (l : Level) : Bool :=
  match limit with
  | none => false
  | some least => l.rank ≤ least.rank

/-- All limits by their number. -/
def byNumber : List Limit :=
  [none, some .error, some .warn, some .info, some .debug, some .trace]

/-- The limits by their names; the empty name is `error`. -/
def byName : List (String × Limit) :=
  [("", some .error), ("off", none), ("error", some .error), ("warn", some .warn),
    ("info", some .info), ("debug", some .debug), ("trace", some .trace)]

/-- The number that digits spell, a plus sign in front allowed. -/
def number? (t : List Char) : Option Nat :=
  let digits := match t with
    | '+' :: rest => rest
    | _ => t
  if digits.isEmpty || !digits.all (fun c => c.isDigit) then none
  else some (digits.foldl (fun n c => 10 * n + (c.toNat - 48)) 0)

/-- The limit that a text names, in upper or lower case. -/
def ofText? (t : List Char) : Option Limit :=
  match number? t with
  | some n => byNumber[n]?
  | none => byName.lookup (String.ofList (t.map Char.toLower))

end Limit

/-- One directive of a filter. -/
structure Directive where
  /-- What the names of the parts begin with; all parts when there is none. -/
  target : Option String
  /-- The field that an event has to carry, if any. -/
  field : Option String
  /-- Whether it holds only inside a span of work, by its name or by the value of a field; this
  program never opens one. -/
  spanned : Bool
  limit : Limit
  deriving DecidableEq, Repr

namespace Directive

/-- Why a text is no directive. -/
inductive Fault where
  | malformed
  | badLevel
  | badPattern
  deriving DecidableEq, Repr

/-- The wording of a fault. -/
def Fault.message : Fault → String
  | malformed => "invalid filter directive"
  | badLevel => "error parsing level filter: expected one of \"off\", \"error\", \"warn\", "
      ++ "\"info\", \"debug\", \"trace\", or a number 0-5"
  | badPattern => "invalid field filter: error building NFA"

/-- Whether a directive may start with a character. -/
def startsDirective (c : Char) : Bool :=
  Text.isAlphanumeric c || c = '-' || c = ':' || c = '_' || c = '['

/-- The part of a text between two byte positions. -/
def cut (t : List Char) (start stop : Nat) : List Char :=
  (Text.Utf8.splitBytes (stop - start) (Text.Utf8.splitBytes start t).2).1

/-- The limit at the end of a text, from a byte position on.  When nothing stands there
everything gets past. -/
def limitFrom (t : List Char) (start : Nat) : Except Fault Limit :=
  match (Text.Utf8.splitBytes start t).2 with
  | [] => .ok (some .trace)
  | level =>
    match Limit.ofText? level with
    | some l => .ok l
    | none => .error .badLevel

/-- A number without its sign. -/
def dropSign : List Char → List Char
  | '+' :: r => r
  | '-' :: r => r
  | r => r

/-- Whether a text is the exponent of a number, or nothing. -/
def isExponent : List Char → Bool
  | [] => true
  | e :: r =>
    let digits := dropSign r
    (e = 'e' || e = 'E') && !digits.isEmpty && digits.all fun c => c.isDigit

/-- Whether a text is a decimal number. -/
def isDecimal (t : List Char) : Bool :=
  let r := dropSign t
  let (whole, rest) := r.span fun c => c.isDigit
  let (fraction, rest) := match rest with
    | '.' :: q => q.span fun c => c.isDigit
    | q => ([], q)
  ["inf", "infinity", "nan"].contains (String.ofList (r.map Char.toLower))
    || !(whole ++ fraction).isEmpty && isExponent rest

/-- The name of a field and whether a value follows it, which is a number or a pattern and ends
at another equals sign. -/
def readField (t : List Char) : Except Fault (String × Bool) :=
  let name := t.takeWhile (· ≠ '=')
  match t.drop name.length with
  | [] => .ok (String.ofList name, false)
  | _ :: rest =>
    let value := rest.takeWhile (· ≠ '=')
    if isDecimal value || isPattern value then .ok (String.ofList name, true)
    else .error .badPattern

/-- The span of a directive, behind its opening bracket: the field if it has one, whether it
speaks of spans of work, and what stands behind the closing bracket.  The bracket ends at byte
`start` of `t`. -/
def readSpan (t : List Char) (start : Nat) (s : List Char) :
    Except Fault (Option String × Bool × List Char) :=
  let name := s.takeWhile fun c => c ≠ ']' && c ≠ '\x7b'
  let stop := start + Text.Utf8.size name
  match s.drop name.length with
  | ']' :: rest => .ok (none, true, rest)
  | _ :: s => do
    let inner := s.takeWhile (· ≠ '\x7d')
    match s.drop inner.length with
    | [] => .error .malformed
    | _ :: s =>
      match cut t (stop + 1) (stop + 1 + Text.Utf8.size inner) with
      | [] => .error .malformed
      | text =>
        let (field, valued) ← readField text
        match s with
        | ']' :: rest => .ok (some field, valued || !name.isEmpty, rest)
        | _ => .error .malformed
  | [] => .error .malformed

/-- A directive.  Its marks are looked for in the text without blanks around it, but its parts
are cut at their places out of the text as it is. -/
def parse (t : List Char) : Except Fault Directive :=
  let s := Text.trim t
  let size := Text.Utf8.size
  if !(s.head?.map startsDirective).getD false then .error .malformed
  else
    let lead := s.takeWhile fun c => c ≠ '=' && c ≠ '['
    let target := if lead.isEmpty then none else some (String.ofList (cut t 0 (size lead)))
    match s.drop lead.length with
    | [] =>
      match Limit.ofText? t with
      | some l => .ok ⟨none, none, false, l⟩
      | none => .ok ⟨some (String.ofList t), none, false, some .trace⟩
    | '[' :: r => do
      let (field, spanned, rest) ← readSpan t (size lead + 1) r
      match rest with
      | [] => return ⟨target, field, spanned, some .trace⟩
      | '=' :: level => return ⟨target, field, spanned, ← limitFrom t (size s - size level)⟩
      | _ => .error .malformed
    | _ => (limitFrom t (size lead + 1)).map fun l => ⟨target, none, false, l⟩

/-- Whether a directive speaks of an event: of the part of the program that it comes from, and
of a field that it carries. -/
def covers (d : Directive) (e : Event) : Bool :=
  !d.spanned
    && (d.target.all fun t => t.toList.isPrefixOf e.origin.text.toList)
    && d.field.all e.origin.fields.contains

/-- How specific a directive is: a longer target counts more than a field, and any target more
than none. -/
def specificity (d : Directive) : Nat :=
  2 * (d.target.map fun t => t.utf8ByteSize + 1).getD 0 + (if d.field.isSome then 1 else 0)

/-- Whether a directive decides about an event that an earlier one covers, too: it is more
specific, or as specific and its field does not come first by name. -/
def overrules (later earlier : Directive) : Bool :=
  earlier.specificity < later.specificity
    || earlier.specificity = later.specificity
      && !decide (later.field.getD "" < earlier.field.getD "")

end Directive

/-- A filter: its directives in order. -/
abbrev Filter := List Directive

namespace Filter

/-- A text cut at its commas, without the empty pieces. -/
def pieces (t : List Char) : List (List Char) :=
  (t.splitOn ',').filter fun piece => !piece.isEmpty

/-- What is said about a piece that is no directive. -/
def complaint (piece : List Char) (fault : Directive.Fault) : String :=
  "ignoring `" ++ String.ofList piece ++ "`: " ++ fault.message

/-- The filter that keeps back all but errors. -/
def errorsOnly : Filter :=
  [⟨none, none, false, some .error⟩]

/-- The filter that a text spells, and a complaint about every piece that is no directive.
When none is left, only errors get past. -/
def parse (t : String) : Filter × List String :=
  let (directives, complaints) :=
    (pieces t.toList).foldr
      (fun piece (directives, complaints) =>
        match Directive.parse piece with
        | .ok d => (d :: directives, complaints)
        | .error fault => (directives, complaint piece fault :: complaints))
      ([], [])
  (if directives.isEmpty then errorsOnly else directives, complaints)

/-- The directive that decides about an event: the most specific one that covers it, of equally
specific ones the last by field and place. -/
def decisive (f : Filter) (e : Event) : Option Directive :=
  (f.filter (·.covers e)).foldl
    (fun best d => if best.all d.overrules then some d else best)
    none

/-- Whether an event gets past a filter. -/
def admits (f : Filter) (e : Event) : Bool :=
  match f.decisive e with
  | none => false
  | some d => d.limit.admits e.level

end Filter

end CompileIndex.Log
