import CompileIndex.Json.Lexeme

/-!
# Reading JSON values

The bracketed forms are read by two loops that are shared by all readers: `readItems` for what
stands between `[` and `]`, `readMembers` for what stands between braces.  Both stop in front
of the closing bracket.  A reader of values carries how many further brackets it may open; a
loop carries the length of the text as a bound on its rounds, which is never reached because
every round reads at least one character.

* `readValue` — a value of any shape;
* `skipValue` — past a value that is not wanted, at any depth;
* `Json.parse` — a whole text.
-/

namespace CompileIndex.Json

/-- How many brackets a text may open inside each other. -/
def depthLimit : Nat := 127

/-- The items up to the closing bracket, each read by `item`. -/
def readItems {α : Type} (item : List Char → Except Fault (α × List Char)) :
    Nat → Bool → List Char → Except Fault (List α × List Char)
  | 0, _, s => .error (.at .endInArray s)
  | fuel + 1, first, s =>
    match skipBlanks s with
    | [] => .error (.at .endInArray [])
    | c :: r =>
      if c = ']' then .ok ([], c :: r)
      else if first then do
        let (x, r) ← item (c :: r)
        let (xs, r) ← readItems item fuel false r
        return (x :: xs, r)
      else if c = ',' then
        match skipBlanks r with
        | [] => .error (.at .endInValue [])
        | c :: r =>
          if c = ']' then .error (.at .trailingComma (c :: r))
          else do
            let (x, r) ← item (c :: r)
            let (xs, r) ← readItems item fuel false r
            return (x :: xs, r)
      else .error (.at .expectedCommaOrBracket (c :: r))

/-- The text behind a closing bracket. -/
def closeArray (s : List Char) : Except Fault (List Char) :=
  match skipBlanks s with
  | [] => .error (.at .endInArray [])
  | c :: r =>
    if c = ']' then .ok r
    else if c = ',' then
      match skipBlanks r with
      | [] => .error (.at .trailingText [])
      | d :: r =>
        if d = ']' then .error (.at .trailingComma (d :: r))
        else .error (.at .trailingText (d :: r))
    else .error (.at .trailingText (c :: r))

/-- The text behind the colon of a member. -/
def readColon (s : List Char) : Except Fault (List Char) :=
  match skipBlanks s with
  | [] => .error (.at .endInObject [])
  | c :: r => if c = ':' then .ok r else .error (.at .expectedColon (c :: r))

/-- The members up to the closing brace.  `member` takes what was gathered so far, the name of
the member and the text behind the name. -/
def readMembers {σ : Type} (member : σ → String → List Char → Except Fault (σ × List Char)) :
    Nat → Bool → σ → List Char → Except Fault (σ × List Char)
  | 0, _, _, s => .error (.at .endInObject s)
  | fuel + 1, first, gathered, s =>
    match skipBlanks s with
    | [] => .error (.at .endInObject [])
    | c :: r =>
      if c = '\x7d' then .ok (gathered, c :: r)
      else if first then
        if c = '"' then do
          let (name, r) ← readString r
          let (gathered, r) ← member gathered (String.ofList name) r
          readMembers member fuel false gathered r
        else .error (.at .nameNotString (c :: r))
      else if c = ',' then
        match skipBlanks r with
        | [] => .error (.at .endInValue [])
        | c :: r =>
          if c = '"' then do
            let (name, r) ← readString r
            let (gathered, r) ← member gathered (String.ofList name) r
            readMembers member fuel false gathered r
          else if c = '\x7d' then .error (.at .trailingComma (c :: r))
          else .error (.at .nameNotString (c :: r))
      else .error (.at .expectedCommaOrBrace (c :: r))

/-- The text behind a closing brace. -/
def closeObject (s : List Char) : Except Fault (List Char) :=
  match skipBlanks s with
  | [] => .error (.at .endInObject [])
  | c :: r =>
    if c = '\x7d' then .ok r
    else if c = ',' then .error (.at .trailingComma (c :: r))
    else .error (.at .trailingText (c :: r))

/-- A value that is not bracketed, from its first character on. -/
def readScalar (s : List Char) : Except Fault (Json × List Char) :=
  match s with
  | [] => .error (.at .endInValue [])
  | c :: r =>
    if c = 'n' then do return (null, ← readWord ['u', 'l', 'l'] r)
    else if c = 't' then do return (bool true, ← readWord ['r', 'u', 'e'] r)
    else if c = 'f' then do return (bool false, ← readWord ['a', 'l', 's', 'e'] r)
    else if c = '"' then do
      let (cs, r) ← readString r
      return (string (String.ofList cs), r)
    else if c = '-' || isDigit c then do
      let (n, r) ← readNumber (c :: r)
      return (n.toJson, r)
    else .error (.at .expectedValue (c :: r))

/-- A value of any shape; objects come sorted, the last member of a name staying. -/
def readValue : Nat → List Char → Except Fault (Json × List Char)
  | 0, s =>
    match skipBlanks s with
    | [] => .error (.at .endInValue [])
    | c :: r =>
      if c = '[' || c = '\x7b' then .error (.at .tooDeep (c :: r)) else readScalar (c :: r)
  | depth + 1, s =>
    match skipBlanks s with
    | [] => .error (.at .endInValue [])
    | c :: r =>
      if c = '[' then do
        let (items, r) ← readItems (readValue depth) (r.length + 1) true r
        return (array items, ← closeArray r)
      else if c = '\x7b' then do
        let member gathered name s := do
          let (v, s) ← readValue depth (← readColon s)
          return (insert name v gathered, s)
        let (members, r) ← readMembers member (r.length + 1) true [] r
        return (object members, ← closeObject r)
      else readScalar (c :: r)

mutual

/-- The text behind a value that is not wanted. -/
def skipValue : Nat → List Char → Except Fault (List Char)
  | 0, s => .error (.at .endInValue s)
  | fuel + 1, s =>
    match skipBlanks s with
    | [] => .error (.at .endInValue [])
    | c :: r =>
      if c = 'n' then readWord ['u', 'l', 'l'] r
      else if c = 't' then readWord ['r', 'u', 'e'] r
      else if c = 'f' then readWord ['a', 'l', 's', 'e'] r
      else if c = '"' then skipString r
      else if c = '-' || isDigit c then skipNumber (c :: r)
      else if c = '[' then skipItems fuel true r
      else if c = '\x7b' then skipMembers fuel true r
      else .error (.at .expectedValue (c :: r))

/-- The text behind the closing bracket of an array that is not wanted. -/
def skipItems : Nat → Bool → List Char → Except Fault (List Char)
  | 0, _, s => .error (.at .endInArray s)
  | fuel + 1, first, s =>
    match skipBlanks s with
    | [] => .error (.at .endInArray [])
    | c :: r =>
      if c = ']' then .ok r
      else if first then do skipItems fuel false (← skipValue fuel (c :: r))
      else if c = ',' then do skipItems fuel false (← skipValue fuel r)
      else .error (.at .expectedCommaOrBracket (c :: r))

/-- The text behind the closing brace of an object that is not wanted. -/
def skipMembers : Nat → Bool → List Char → Except Fault (List Char)
  | 0, _, s => .error (.at .endInObject s)
  | fuel + 1, first, s =>
    match skipBlanks s with
    | [] => .error (.at .endInObject [])
    | c :: r =>
      if c = '\x7d' then .ok r
      else if first then skipMember fuel (c :: r)
      else if c = ',' then skipMember fuel r
      else .error (.at .expectedCommaOrBrace (c :: r))

/-- The text behind the closing brace of an object that is not wanted, from the name of a
member on. -/
def skipMember : Nat → List Char → Except Fault (List Char)
  | 0, s => .error (.at .endInObject s)
  | fuel + 1, s =>
    match skipBlanks s with
    | [] => .error (.at .endInObject [])
    | c :: r =>
      if c = '"' then do
        let r ← skipString r
        let r ← readColon r
        skipMembers fuel false (← skipValue fuel r)
      else .error (.at .nameNotString (c :: r))

end

/-- The text behind a value that is not wanted. -/
def skipAny (s : List Char) : Except Fault (List Char) :=
  skipValue (3 * s.length + 3) s

/-- What a reader makes of a whole text, behind which only blanks may stand. -/
def readWhole {α : Type} (read : List Char → Except Fault (α × List Char)) (text : List Char) :
    Except Fault α := do
  let (x, r) ← read text
  match skipBlanks r with
  | [] => return x
  | c :: r => .error (.at .trailingText (c :: r))

/-- The value of a whole text. -/
def parse (text : String) : Except Fault Json :=
  readWhole (readValue depthLimit) text.toList

end CompileIndex.Json
