import CompileIndex.Text.Alphanumeric
import CompileIndex.Text.Blank
import CompileIndex.Text.Hexadecimal

/-!
# Patterns

Which texts are patterns, that is regular expressions.  Nothing is matched here: a filter only
has to tell patterns from other texts.

A pattern matches characters, and then it does without what needs tables of all scripts: the
short forms of classes, the boundaries of words, and letters in either case.  With the flag `u`
taken back it matches bytes, and then it may not match a part of a character.  A closing brace
never occurs in a pattern, so that an opening brace counts only where it is a character.

* `isPattern` — whether a text is a pattern;
* `accepts` — whether a text goes on as a pattern, under the flags in force;
* `readBracket` — a class in brackets.
-/

namespace CompileIndex.Log.Pattern

/-! ### Flags -/

/-- The flags in force that decide what a pattern may hold. -/
structure Mode where
  /-- Letters match in either case. -/
  caseless : Bool
  /-- Blanks and comments mean nothing. -/
  spaced : Bool
  /-- Bytes are matched. -/
  bytes : Bool

namespace Mode

/-- The flags at the start of a pattern. -/
def initial : Mode :=
  ⟨false, false, false⟩

/-- A flag set or taken back. -/
def set (on : Bool) (m : Mode) (flag : Char) : Mode :=
  if flag = 'i' then { m with caseless := on }
  else if flag = 'x' then { m with spaced := on }
  else if flag = 'u' then { m with bytes := !on }
  else m

/-- The flags of a group set, and behind a minus sign taken back. -/
def apply (m : Mode) (flags : List Char) : Mode :=
  (flags.dropWhile (· ≠ '-')).foldl (set false) ((flags.takeWhile (· ≠ '-')).foldl (set true) m)

/-- The text behind blanks and comments. -/
def skipSpaced (comment : Bool) : List Char → List Char
  | [] => []
  | c :: s =>
    if comment then skipSpaced (c ≠ '\n') s
    else if Text.isBlank c then skipSpaced false s
    else if c = '#' then skipSpaced true s
    else c :: s

/-- The text behind what means nothing. -/
def skip (m : Mode) (s : List Char) : List Char :=
  if m.spaced then skipSpaced false s else s

end Mode

/-- The flags there are. -/
def flagLetters : List Char :=
  ['i', 'm', 's', 'U', 'u', 'R', 'x']

/-- Whether flags are well written: each at most once, and a minus sign in front of one. -/
def isFlags (flags : List Char) : Bool :=
  flags.all (fun c => c = '-' || flagLetters.contains c) && decide flags.Nodup
    && flags.getLast? ≠ some '-'

/-! ### Single characters -/

/-- What a character or an escape stands for. -/
inductive Atom where
  /-- A character; one of two hexadecimal digits is a byte. -/
  | char (c : Char) (asByte : Bool)
  /-- The short form of a class, or of all characters out of it. -/
  | shorthand (inverse : Bool)
  /-- The start or the end of a word, or the inside of one. -/
  | boundary
  /-- The start or the end of the text. -/
  | edge

/-- The number of hexadecimal digits behind a letter. -/
def digitCount? (c : Char) : Option Nat :=
  [('x', 2), ('u', 4), ('U', 8)].lookup c

/-- The characters that letters stand for. -/
def controls : List (Char × Nat) :=
  [('a', 7), ('t', 9), ('n', 10), ('v', 11), ('f', 12), ('r', 13)]

/-- A number of `n` hexadecimal digits, where `value` was read before. -/
def readHex (m : Mode) : Nat → Nat → List Char → Option (Nat × List Char)
  | 0, value, s => some (value, s)
  | n + 1, value, s =>
    match s with
    | [] => none
    | c :: r => do readHex m n (16 * value + (← Text.hexValue? c)) (m.skip r)

/-- What stands behind a backslash. -/
def readEscape (m : Mode) (s : List Char) : Option (Atom × List Char) :=
  match s with
  | [] => none
  | c :: r =>
    match digitCount? c with
    | some n => do
      let (value, r) ← readHex m n 0 (m.skip r)
      if value.isValidChar then some (.char (Char.ofNat value) (n = 2), r) else none
    | none =>
      match controls.lookup c with
      | some value => some (.char (Char.ofNat value) false, r)
      | none =>
        if c = 'd' || c = 's' || c = 'w' then some (.shorthand false, r)
        else if c = 'D' || c = 'S' || c = 'W' then some (.shorthand true, r)
        else if c = 'b' || c = 'B' || c = '<' || c = '>' then some (.boundary, r)
        else if c = 'A' || c = 'z' then some (.edge, r)
        else if c.isAlphanum || 0x80 ≤ c.toNat then none
        else some (.char c false, r)

/-- Whether something may be matched outside brackets. -/
def Mode.takes (m : Mode) : Atom → Bool
  | .char c asByte => if m.bytes then !(asByte && 0x80 ≤ c.toNat) else !m.caseless
  | .shorthand inverse => m.bytes && !inverse
  | .boundary => m.bytes
  | .edge => true

/-- Whether something may be matched inside brackets. -/
def Mode.takesInside (m : Mode) : Atom → Bool
  | .char c _ => !m.bytes || c.toNat < 0x80
  | .shorthand inverse => m.bytes && !inverse
  | .boundary | .edge => false

/-! ### Classes in brackets -/

/-- The names of classes. -/
def classNames : List String :=
  ["alnum", "alpha", "ascii", "blank", "cntrl", "digit", "graph", "lower", "print", "punct",
    "space", "upper", "word", "xdigit"]

/-- The rest of a named class behind its bracket, and whether it is inverted. -/
def readNamed (s : List Char) : Option (Bool × List Char) :=
  match s with
  | ':' :: r =>
    let inverse := r.head? = some '^'
    let r := if inverse then r.drop 1 else r
    let name := r.takeWhile (· ≠ ':')
    match r.drop name.length with
    | ':' :: ']' :: rest =>
      if classNames.contains (String.ofList name) then some (inverse, rest) else none
    | _ => none
  | _ => none

/-- The text behind hyphens.  `n` bounds their number. -/
def skipHyphens (m : Mode) : Nat → List Char → List Char
  | n + 1, '-' :: r => skipHyphens m n (m.skip r)
  | _, s => s

/-- The text behind the start of a class: hyphens, or else a closing bracket, are characters
there. -/
def openBracket (m : Mode) (s : List Char) : Option (List Char) :=
  let s := m.skip s
  let inverse := s.head? = some '^'
  let s := if inverse then m.skip (s.drop 1) else s
  if (if m.bytes then inverse else m.caseless) then none
  else
    match s with
    | '-' :: _ => some (skipHyphens m s.length s)
    | ']' :: r => some (m.skip r)
    | _ => some s

/-- A character or an escape inside brackets. -/
def readItem (m : Mode) (s : List Char) : Option (Atom × List Char) := do
  let (a, r) ← match s with
    | [] => none
    | '\\' :: r => readEscape m r
    | c :: r => some (.char c false, r)
  if m.takesInside a then some (a, m.skip r) else none

/-- Whether two ends make a range. -/
def isRange : Atom → Atom → Bool
  | .char a _, .char b _ => a.toNat ≤ b.toNat
  | _, _ => false

/-- An item of a class, or a range of two. -/
def readRange (m : Mode) (s : List Char) : Option (List Char) := do
  let (a, r) ← readItem m s
  match r with
  | '-' :: q =>
    match m.skip q with
    | ']' :: _ => some r
    | '-' :: _ => some r
    | q =>
      let (b, r) ← readItem m q
      if isRange a b then some r else none
  | _ => some r

/-- The rest of a class, where `depth` brackets are open.  `n` bounds the number of items. -/
def readBracket (m : Mode) : Nat → Nat → List Char → Option (List Char)
  | 0, _, _ => none
  | n + 1, depth, s =>
    match m.skip s with
    | [] => none
    | '[' :: r =>
      match readNamed r with
      | some (inverse, r) => if m.bytes && inverse then none else readBracket m n depth r
      | none => do readBracket m n (depth + 1) (← openBracket m r)
    | ']' :: r => if depth ≤ 1 then some r else readBracket m n (depth - 1) r
    | '&' :: '&' :: r => readBracket m n depth r
    | '-' :: '-' :: r => readBracket m n depth r
    | '~' :: '~' :: r => readBracket m n depth r
    | s => do readBracket m n depth (← readRange m s)

/-! ### Groups -/

/-- What an opening parenthesis begins. -/
inductive Opening where
  /-- Flags for the rest of the group around it. -/
  | flags (m : Mode)
  /-- A group with its flags, and the names given to groups up to it. -/
  | group (m : Mode) (names : List (List Char))

/-- Whether a name may be given to a group. -/
def isName (name : List Char) : Bool :=
  match name with
  | [] => false
  | c :: rest =>
    (c = '_' || (Text.isAlphanumeric c && !c.isDigit))
      && rest.all fun c => c = '_' || c = '.' || c = '[' || c = ']' || Text.isAlphanumeric c

/-- The rest of a name in angle brackets. -/
def readName (m : Mode) (names : List (List Char)) (s : List Char) :
    Option (Opening × List Char) :=
  let name := s.takeWhile (· ≠ '>')
  match s.drop name.length with
  | _ :: r =>
    if isName name && !names.contains name then some (.group m (name :: names), r) else none
  | [] => none

/-- What stands behind an opening parenthesis. -/
def readOpening (m : Mode) (names : List (List Char)) (s : List Char) :
    Option (Opening × List Char) :=
  match s with
  | '?' :: 'P' :: '<' :: r => readName m names r
  | '?' :: '<' :: r => readName m names r
  | '?' :: r =>
    let flags := r.takeWhile fun c => c ≠ ':' && c ≠ ')'
    if !isFlags flags then none
    else
      match r.drop flags.length with
      | ':' :: r => some (.group (m.apply flags) names, r)
      | ')' :: r => if flags.isEmpty then none else some (.flags (m.apply flags), r)
      | _ => none
  | r => some (.group m names, r)

/-! ### Patterns -/

/-- The text behind the question mark that makes a repetition short. -/
def skipLazy : List Char → List Char
  | '?' :: r => r
  | s => s

/-- Whether a text goes on as a pattern.  `outer` holds the flags of the groups around,
`operand` says whether something stands in front that can be repeated, and `n` bounds the number
of steps. -/
def accepts : Nat → Mode → List Mode → List (List Char) → Bool → List Char → Bool
  | 0, _, _, _, _, _ => false
  | n + 1, m, outer, names, operand, s =>
    match m.skip s with
    | [] => outer.isEmpty
    | '(' :: r =>
      match readOpening m names (m.skip r) with
      | some (.flags m, r) => accepts n m outer names false r
      | some (.group inner names, r) => accepts n inner (m :: outer) names false r
      | none => false
    | ')' :: r =>
      match outer with
      | m :: outer => accepts n m outer names true r
      | [] => false
    | '|' :: r => accepts n m outer names false r
    | '[' :: r =>
      match (openBracket m r).bind fun r => readBracket m (r.length + 1) 1 r with
      | some r => accepts n m outer names true r
      | none => false
    | '\\' :: r =>
      match readEscape m r with
      | some (a, r) => m.takes a && accepts n m outer names true r
      | none => false
    | c :: r =>
      if c = '?' || c = '*' || c = '+' then
        operand && accepts n m outer names true (skipLazy r)
      else if c = '\x7b' then false
      else if c = '.' then !m.bytes && accepts n m outer names true r
      else if c = '^' || c = '$' then accepts n m outer names true r
      else m.takes (.char c false) && accepts n m outer names true r

end Pattern

/-- Whether a text is a pattern. -/
def isPattern (t : List Char) : Bool :=
  Pattern.accepts (t.length + 1) .initial [] [] false t

end CompileIndex.Log
