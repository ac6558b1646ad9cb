import CompileIndex.Decimal.Notation
import CompileIndex.Text.Hexadecimal
import CompileIndex.Toml.Value

/-!
# Words of TOML documents

Every function takes the text that is left to read and gives what it read with the text left
after it; `none` means that the document is malformed.

* `skipSpace`, `skipGaps`, `endLine` — blanks, blank lines and comments, the end of a line;
* `readString` — strings in their four forms;
* `readKey` — a key with its dots;
* `readNumber` — dates and times, floats, integers.
-/

namespace CompileIndex.Toml

/-! ### Blanks -/

/-- Whether a character is a space or a tab. -/
def isSpace (c : Char) : Bool :=
  c = ' ' || c = '\t'

/-- The text behind spaces and tabs. -/
def skipSpace (s : List Char) : List Char :=
  s.dropWhile isSpace

/-- Whether a character may stand in a comment. -/
def isCommentChar (c : Char) : Bool :=
  c = '\t' || (32 ≤ c.toNat && c.toNat ≠ 127)

/-- The text behind a line end. -/
def newline? : List Char → Option (List Char)
  | '\n' :: r => some r
  | '\r' :: '\n' :: r => some r
  | _ => none

/-- The text behind blanks, line ends and comments, of which at most `n` are passed. -/
def skipGaps : Nat → List Char → Option (List Char)
  | 0, s => some s
  | n + 1, s =>
    match skipSpace s with
    | '#' :: r => (newline? (r.dropWhile isCommentChar)).bind (skipGaps n)
    | '\n' :: r => skipGaps n r
    | '\r' :: r => (newline? ('\r' :: r)).bind (skipGaps n)
    | r => some r

/-- The text behind the rest of a line, which may hold blanks and a comment. -/
def endLine (s : List Char) : Option (List Char) :=
  let r := match skipSpace s with
    | '#' :: r => r.dropWhile isCommentChar
    | r => r
  match r with
  | [] => some []
  | r => newline? r

/-! ### Strings -/

/-- The character whose number `n` hexadecimal digits spell. -/
def readScalar (n : Nat) (s : List Char) : Option (Char × List Char) := do
  let digits := s.take n
  if digits.length < n then none
  let value ← digits.foldlM (fun v c => (Text.hexValue? c).map (16 * v + ·)) 0
  if value.isValidChar then some (Char.ofNat value, s.drop n) else none

/-- The character that an escape stands for, behind its backslash. -/
def readEscape : List Char → Option (Char × List Char)
  | 'b' :: r => some (Char.ofNat 8, r)
  | 't' :: r => some ('\t', r)
  | 'n' :: r => some ('\n', r)
  | 'f' :: r => some (Char.ofNat 12, r)
  | 'r' :: r => some ('\r', r)
  | '"' :: r => some ('"', r)
  | '\\' :: r => some ('\\', r)
  | 'u' :: r => readScalar 4 r
  | 'U' :: r => readScalar 8 r
  | _ => none

/-- The rest of a string on one line.  `n` bounds the number of characters. -/
def readBasic : Nat → List Char → Option (List Char × List Char)
  | 0, _ => none
  | n + 1, s =>
    match s with
    | [] => none
    | '"' :: r => some ([], r)
    | '\\' :: r => do
      let (c, r) ← readEscape r
      let (cs, r) ← readBasic n r
      return (c :: cs, r)
    | c :: r =>
      if isCommentChar c then (readBasic n r).map fun (cs, r) => (c :: cs, r) else none

/-- The rest of a string on one line without escapes. -/
def readLiteral : List Char → Option (List Char × List Char)
  | [] => none
  | c :: r =>
    if c = '\'' then some ([], r)
    else if isCommentChar c then (readLiteral r).map fun (cs, r) => (c :: cs, r)
    else none

/-- The text behind a backslash at the end of a line and all blanks and line ends after it;
`none` when the backslash does not end a line. -/
def skipFold (s : List Char) : Option (List Char) :=
  let rec rest : Nat → List Char → List Char
    | 0, s => s
    | n + 1, s =>
      match newline? (skipSpace s) with
      | some r => rest n r
      | none => skipSpace s
  (newline? (skipSpace s)).map fun r => rest r.length r

/-- What a run of quotes inside a string of several lines does: the string ends with at most
two quotes in front of the last three. -/
def closing? (quote : Char) (s : List Char) : Option (List Char × List Char) :=
  let run := (s.takeWhile (· = quote)).length
  if run < 3 then none
  else
    let kept := min run 5 - 3
    some (List.replicate kept quote, s.drop (kept + 3))

/-- The rest of a string of several lines.  `n` bounds the number of characters. -/
def readLongBasic : Nat → List Char → Option (List Char × List Char)
  | 0, _ => none
  | n + 1, s =>
    match closing? '"' s with
    | some (cs, r) => some (cs, r)
    | none =>
      match s with
      | [] => none
      | '\\' :: r =>
        match skipFold r with
        | some r => readLongBasic n r
        | none => do
          let (c, r) ← readEscape r
          let (cs, r) ← readLongBasic n r
          return (c :: cs, r)
      | c :: r =>
        match newline? (c :: r) with
        | some r => (readLongBasic n r).map fun (cs, r) => ('\n' :: cs, r)
        | none =>
          if isCommentChar c then (readLongBasic n r).map fun (cs, r) => (c :: cs, r)
          else none

/-- The rest of a string of several lines without escapes. -/
def readLongLiteral : Nat → List Char → Option (List Char × List Char)
  | 0, _ => none
  | n + 1, s =>
    match closing? '\'' s with
    | some (cs, r) => some (cs, r)
    | none =>
      match s with
      | [] => none
      | c :: r =>
        match newline? (c :: r) with
        | some r => (readLongLiteral n r).map fun (cs, r) => ('\n' :: cs, r)
        | none =>
          if isCommentChar c then (readLongLiteral n r).map fun (cs, r) => (c :: cs, r)
          else none

/-- The text behind a line end, if it starts with one. -/
def dropNewline (s : List Char) : List Char :=
  (newline? s).getD s

/-- A string in one of its four forms. -/
def readString (s : List Char) : Option (String × List Char) :=
  (match s with
    | '"' :: '"' :: '"' :: r => readLongBasic (r.length + 1) (dropNewline r)
    | '"' :: r => readBasic (r.length + 1) r
    | '\'' :: '\'' :: '\'' :: r => readLongLiteral (r.length + 1) (dropNewline r)
    | '\'' :: r => readLiteral r
    | _ => none).map fun (cs, r) => (String.ofList cs, r)

/-! ### Keys -/

/-- Whether a character may stand in a key without quotes. -/
def isBareChar (c : Char) : Bool :=
  c.isAlphanum || c = '-' || c = '_'

/-- One part of a key. -/
def readSimpleKey (s : List Char) : Option (String × List Char) :=
  match s with
  | '"' :: r => (readBasic (r.length + 1) r).map fun (cs, r) => (String.ofList cs, r)
  | '\'' :: r => (readLiteral r).map fun (cs, r) => (String.ofList cs, r)
  | _ =>
    let bare := s.takeWhile isBareChar
    if bare.isEmpty then none else some (String.ofList bare, s.dropWhile isBareChar)

/-- How many parts a key may have. -/
def keyLimit : Nat := 79

/-- A key of at most `n` parts and the blanks around it. -/
def readKeyUpTo : Nat → List Char → Option (List String × List Char)
  | 0, _ => none
  | n + 1, s => do
    let (part, r) ← readSimpleKey (skipSpace s)
    match skipSpace r with
    | '.' :: r => do
      let (parts, r) ← readKeyUpTo n r
      return (part :: parts, r)
    | r => return ([part], r)

/-- A key and the blanks around it. -/
def readKey (s : List Char) : Option (List String × List Char) :=
  readKeyUpTo keyLimit s

/-! ### Dates and times -/

/-- A number of exactly `n` digits. -/
def readFixed (n : Nat) (s : List Char) : Option (Nat × List Char) :=
  let digits := s.take n
  if digits.length = n && digits.all (fun c => c.isDigit) then
    some (digits.foldl (fun v c => 10 * v + (c.toNat - 48)) 0, s.drop n)
  else none

/-- A number of two digits in a range. -/
def readPair (low high : Nat) (s : List Char) : Option (Nat × List Char) := do
  let (n, r) ← readFixed 2 s
  if low ≤ n && n ≤ high then some (n, r) else none

/-- The text behind a character. -/
def expect (c : Char) (s : List Char) : Option (List Char) :=
  match s with
  | d :: r => if d = c then some r else none
  | [] => none

/-- The number of days of a month. -/
def daysIn (year month : Nat) : Nat :=
  if month = 2 then
    if year % 4 = 0 && (year % 100 ≠ 0 || year % 400 = 0) then 29 else 28
  else if month = 4 || month = 6 || month = 9 || month = 11 then 30
  else 31

/-- A number with `n` digits at least. -/
def padded (n value : Nat) : List Char :=
  let digits := Decimal.digitsOf value
  List.replicate (n - digits.length) '0' ++ digits

/-- A date, as its normal text. -/
def readDate (s : List Char) : Option (List Char × List Char) := do
  let (year, r) ← readFixed 4 s
  let (month, r) ← readPair 1 12 (← expect '-' r)
  let (day, r) ← readPair 1 31 (← expect '-' r)
  if daysIn year month < day then none
  return (padded 4 year ++ '-' :: padded 2 month ++ '-' :: padded 2 day, r)

/-- Digits without the zeros at their end. -/
def dropTrailingZeros (ds : List Char) : List Char :=
  (ds.reverse.dropWhile (· = '0')).reverse

/-- A time of day, as its normal text. -/
def readTime (s : List Char) : Option (List Char × List Char) := do
  let (hour, r) ← readPair 0 23 s
  let (minute, r) ← readPair 0 59 (← expect ':' r)
  let (second, r) ← readPair 0 60 (← expect ':' r)
  let text := padded 2 hour ++ ':' :: padded 2 minute ++ ':' :: padded 2 second
  match r with
  | '.' :: r =>
    let digits := r.takeWhile (fun c => c.isDigit)
    if digits.isEmpty then none
    let kept := dropTrailingZeros (digits.take 9)
    return (text ++ (if kept.isEmpty then [] else '.' :: kept), r.dropWhile (fun c => c.isDigit))
  | r => return (text, r)

/-- An offset from universal time, as its normal text. -/
def readOffset (s : List Char) : Option (List Char × List Char) :=
  match s with
  | 'Z' :: r => some (['Z'], r)
  | 'z' :: r => some (['Z'], r)
  | '+' :: r => amount '+' r
  | '-' :: r => amount '-' r
  | _ => some ([], s)
where
  /-- Hours and minutes behind a sign; no offset at all has a plus sign. -/
  amount (sign : Char) (s : List Char) : Option (List Char × List Char) := do
    let (hours, r) ← readPair 0 23 s
    let (minutes, r) ← readPair 0 59 (← expect ':' r)
    let sign := if hours = 0 && minutes = 0 then '+' else sign
    return (sign :: padded 2 hours ++ ':' :: padded 2 minutes, r)

/-- What stands behind a date: a time with an offset, or nothing. -/
def readClock (s : List Char) : Option (List Char × List Char) :=
  let timed (r : List Char) : Option (List Char × List Char) := do
    let (time, r) ← readTime r
    let (offset, r) ← readOffset r
    return ('T' :: time ++ offset, r)
  match s with
  | 'T' :: r => timed r
  | 't' :: r => timed r
  | ' ' :: r => if (r.head?.map Char.isDigit).getD false then timed r else some ([], s)
  | _ => some ([], s)

/-- Whether digits and a separator begin a date or a time. -/
def startsDate (s : List Char) : Bool :=
  match s with
  | a :: b :: c :: d :: '-' :: _ => a.isDigit && b.isDigit && c.isDigit && d.isDigit
  | _ => false

def startsTime (s : List Char) : Bool :=
  match s with
  | a :: b :: ':' :: _ => a.isDigit && b.isDigit
  | _ => false

/-- A date, a time or both, as their normal text. -/
def readDatetime (s : List Char) : Option (Value × List Char) := do
  if startsDate s then
    let (date, r) ← readDate s
    let (clock, r) ← readClock r
    return (.datetime (String.ofList (date ++ clock)), r)
  else
    let (time, r) ← readTime s
    return (.datetime (String.ofList time), r)

/-! ### Numbers -/

/-- Digits that `isDigit` accepts, single underscores between them taken out.  `after` says
whether a digit stands in front of the text. -/
def takeDigits (isDigit : Char → Bool) (after : Bool) : List Char → List Char × List Char
  | [] => ([], [])
  | c :: r =>
    if isDigit c then
      let (ds, r) := takeDigits isDigit true r
      (c :: ds, r)
    else if c = '_' && after && (r.head?.map isDigit).getD false then
      let (ds, r) := takeDigits isDigit false r
      (ds, r)
    else ([], c :: r)

/-- Decimal digits as a number. -/
def decimalOf (ds : List Char) : Nat :=
  ds.foldl (fun v c => 10 * v + (c.toNat - 48)) 0

/-- A sign in front of a number: whether it is a minus. -/
def takeSign : List Char → Bool × List Char
  | '-' :: r => (true, r)
  | '+' :: r => (false, r)
  | r => (false, r)

/-- The digits of a whole number: a zero alone, or digits that do not begin with a zero. -/
def readWhole (s : List Char) : Option (List Char × List Char) :=
  match s with
  | '0' :: r => some (['0'], r)
  | _ =>
    match takeDigits Char.isDigit false s with
    | ([], _) => none
    | (ds, r) => some (ds, r)

/-- An integer in range. -/
def integer? (n : Int) : Option Value :=
  if -0x8000000000000000 ≤ n ∧ n < 0x8000000000000000 then some (.integer (Int64.ofInt n))
  else none

/-- Whether a character is a digit in a base. -/
def isDigitOf (base : Nat) (c : Char) : Bool :=
  match Text.hexValue? c with
  | some v => v < base
  | none => false

/-- Digits in a base that is a power of two, behind the mark of the base. -/
def readBased (base : Nat) (s : List Char) : Option (Value × List Char) := do
  match takeDigits (isDigitOf base) false s with
  | ([], _) => none
  | (ds, r) =>
    let n ← ds.foldlM (fun v c => (Text.hexValue? c).map (base * v + ·)) 0
    return (← integer? n, r)

/-- An exponent behind its letter. -/
def readExponent (s : List Char) : Option (Int × List Char) :=
  let (negative, r) := takeSign s
  match takeDigits Char.isDigit false r with
  | ([], _) => none
  | (ds, r) => some (if negative then Int.negOfNat (decimalOf ds) else decimalOf ds, r)

/-- The double of digits and a power of ten; one that is too great is malformed. -/
def float? (negative : Bool) (digits : List Char) (exponent : Int) : Option Value :=
  let x := Decimal.nearest (decimalOf digits) exponent
  if negative then some (.float (-x))
  else if x.isInf then none
  else some (.float x)

/-- The rest of a number behind its whole part. -/
def readFloatTail (negative : Bool) (whole s : List Char) : Option (Value × List Char) :=
  let exponent (digits : List Char) (shift : Nat) (s : List Char) :
      Option (Value × List Char) := do
    let (e, r) ← readExponent s
    return (← float? negative digits (e - shift), r)
  match s with
  | '.' :: r =>
    match takeDigits Char.isDigit false r with
    | ([], _) => none
    | (ds, r) =>
      match r with
      | 'e' :: r => exponent (whole ++ ds) ds.length r
      | 'E' :: r => exponent (whole ++ ds) ds.length r
      | r => (float? negative (whole ++ ds) (Int.negOfNat ds.length)).map (·, r)
  | 'e' :: r => exponent whole 0 r
  | 'E' :: r => exponent whole 0 r
  | r => do
    let n : Int := decimalOf whole
    return (← integer? (if negative then -n else n), r)

/-- An integer or a double in base ten, also infinities and what is no number. -/
def readDecimal (s : List Char) : Option (Value × List Char) :=
  let (negative, r) := takeSign s
  match r with
  | 'i' :: 'n' :: 'f' :: r =>
    some (.float (Float.ofBits (if negative then 0xfff0000000000000 else 0x7ff0000000000000)), r)
  | 'n' :: 'a' :: 'n' :: r => some (.float (Float.ofBits 0x7ff8000000000000), r)
  | r => do
    let (whole, r) ← readWhole r
    readFloatTail negative whole r

/-- A date, a time or a number. -/
def readNumber (s : List Char) : Option (Value × List Char) :=
  match s with
  | '0' :: 'x' :: r => readBased 16 r
  | '0' :: 'o' :: r => readBased 8 r
  | '0' :: 'b' :: r => readBased 2 r
  | _ => if startsDate s || startsTime s then readDatetime s else readDecimal s

end CompileIndex.Toml
