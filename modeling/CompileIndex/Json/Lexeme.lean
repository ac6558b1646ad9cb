import CompileIndex.Json.Fault
import CompileIndex.Text.Hexadecimal

/-!
# Words, strings and numbers of JSON texts

Every function takes the text that is left to read and gives what it read with the text left
after it, or a fault.

* `skipBlanks` — past spaces, tabs and line ends;
* `readWord` — a fixed word;
* `readString` — the characters up to the closing quote, escapes resolved;
* `readNumber` — an integer or a double.  A double is its digits as an integer of 64 bits,
  further digits dropped, times or over a power of ten.
-/

namespace CompileIndex.Json

/-- Whether a character may stand between the parts of a text. -/
def isSpace (c : Char) : Bool :=
  c = ' ' || c = '\n' || c = '\t' || c = '\r'

/-- The text behind spaces, tabs and line ends. -/
def skipBlanks (s : List Char) : List Char :=
  s.dropWhile isSpace

/-- The text behind the characters of `word`. -/
def readWord : List Char → List Char → Except Fault (List Char)
  | [], s => .ok s
  | _ :: _, [] => .error (.before .endInValue [])
  | w :: word, c :: s =>
    if c = w then readWord word s else .error (.at .expectedWord (c :: s))

/-- The number that four hexadecimal digits spell. -/
def hexQuad? (a b c d : Char) : Option Nat := do
  let a ← Text.hexValue? a
  let b ← Text.hexValue? b
  let c ← Text.hexValue? c
  let d ← Text.hexValue? d
  return ((a * 16 + b) * 16 + c) * 16 + d

/-- The character that a letter stands for behind a backslash. -/
def escapeOf? (c : Char) : Option Char :=
  if c = '"' then some '"'
  else if c = '\\' then some '\\'
  else if c = '/' then some '/'
  else if c = 'b' then some (Char.ofNat 8)
  else if c = 'f' then some (Char.ofNat 12)
  else if c = 'n' then some '\n'
  else if c = 'r' then some '\r'
  else if c = 't' then some '\t'
  else none

/-- The fault of four characters that are no hexadecimal digits, or of a text that ends before
four bytes are there. -/
def hexFault (s : List Char) : Fault :=
  if Text.Utf8.size s < 4 then ⟨.endInString, s, 4⟩ else ⟨.badEscape, s, 4⟩

/-- The characters up to the closing quote. -/
def readString : List Char → Except Fault (List Char × List Char)
  | [] => .error (.before .endInString [])
  | c :: s =>
    if c = '"' then .ok ([], s)
    else if c = '\\' then
      match s with
      | [] => .error (.before .endInString [])
      | e :: s =>
        if e = 'u' then
          match s with
          | x₁ :: x₂ :: x₃ :: x₄ :: s =>
            match hexQuad? x₁ x₂ x₃ x₄ with
            | none => .error (hexFault (x₁ :: x₂ :: x₃ :: x₄ :: s))
            | some n =>
              if 0xdc00 ≤ n && n ≤ 0xdfff then .error (.before .loneSurrogate s)
              else if 0xd800 ≤ n && n ≤ 0xdbff then
                match s with
                | [] => .error (.before .endInString [])
                | b :: s =>
                  if b = '\\' then
                    match s with
                    | [] => .error (.before .endInString [])
                    | u :: s =>
                      if u = 'u' then
                        match s with
                        | y₁ :: y₂ :: y₃ :: y₄ :: s =>
                          match hexQuad? y₁ y₂ y₃ y₄ with
                          | none => .error (hexFault (y₁ :: y₂ :: y₃ :: y₄ :: s))
                          | some k =>
                            if 0xdc00 ≤ k && k ≤ 0xdfff then
                              (readString s).map fun r =>
                                (Char.ofNat ((n - 0xd800) * 1024 + (k - 0xdc00) + 0x10000) :: r.1,
                                  r.2)
                            else .error (.before .loneSurrogate s)
                        | short => .error (hexFault short)
                      else .error (.at .cutSurrogate (u :: s))
                  else .error (.at .cutSurrogate (b :: s))
              else (readString s).map fun r => (Char.ofNat n :: r.1, r.2)
          | short => .error (hexFault short)
        else
          match escapeOf? e with
          | some d => (readString s).map fun r => (d :: r.1, r.2)
          | none => .error (.at .badEscape (e :: s))
    else if c.toNat < 32 then .error (.before .controlCharacter s)
    else (readString s).map fun r => (c :: r.1, r.2)

/-- The text behind the closing quote of a string that is not wanted.  Surrogates may stand
alone in it. -/
def skipString : List Char → Except Fault (List Char)
  | [] => .error (.before .endInString [])
  | c :: s =>
    if c = '"' then .ok s
    else if c = '\\' then
      match s with
      | [] => .error (.before .endInString [])
      | e :: s =>
        if e = 'u' then
          match s with
          | x₁ :: x₂ :: x₃ :: x₄ :: s =>
            match hexQuad? x₁ x₂ x₃ x₄ with
            | none => .error (hexFault (x₁ :: x₂ :: x₃ :: x₄ :: s))
            | some _ => skipString s
          | short => .error (hexFault short)
        else
          match escapeOf? e with
          | some _ => skipString s
          | none => .error (.at .badEscape (e :: s))
    else if c.toNat < 32 then .error (.before .controlCharacter (c :: s))
    else skipString s

/-- A number that was read. -/
inductive Number where
  | integer (n : WideInt)
  | float (x : Float)

/-- A number as a value. -/
def Number.toJson : Number → Json
  | integer n => .integer n
  | float x => .float x

/-- The value of a decimal digit. -/
def digitValue? (c : Char) : Option Nat :=
  if 48 ≤ c.toNat && c.toNat ≤ 57 then some (c.toNat - 48) else none

/-- Whether a character is a decimal digit. -/
def isDigit (c : Char) : Bool :=
  (digitValue? c).isSome

/-- Digits added to `n` while the result fits into 64 bits: the result, how many digits were
added, and the text left. -/
def addDigits (n : Nat) : List Char → Nat × Nat × List Char
  | [] => (n, 0, [])
  | c :: s =>
    match digitValue? c with
    | none => (n, 0, c :: s)
    | some d =>
      if n * 10 + d < 0x10000000000000000 then
        let r := addDigits (n * 10 + d) s
        (r.1, r.2.1 + 1, r.2.2)
      else (n, 0, c :: s)

/-- A number in 32 bits with a sign. -/
def clamp32 (n : Int) : Int :=
  if n < -0x80000000 then -0x80000000 else if 0x7fffffff < n then 0x7fffffff else n

/-- A power of ten that a double can be near to. -/
def powerOfTen (n : Nat) : Float :=
  Float.ofScientific 1 false n

/-- `x` over powers of ten of at most `10^308` each, until the exponent is used up or nothing
is left of `x`. -/
def shrink : Nat → Float → Nat → Float
  | 0, x, _ => x
  | n + 1, x, e =>
    if e ≤ 308 then x / powerOfTen e
    else if x == 0 then x
    else shrink n (x / powerOfTen 308) (e - 308)

/-- The double that is `digits` times ten to the `exponent`; none when it is too large. -/
def scaled? (digits : Nat) (exponent : Int) : Option Float :=
  let x := Float.ofNat digits
  if 0 ≤ exponent then
    if exponent ≤ 308 then
      let y := x * powerOfTen exponent.toNat
      if y.isInf then none else some y
    else if digits = 0 then some x
    else none
  else some (shrink 5 x (-exponent).toNat)

/-- The double with a sign that `digits` and `exponent` give, read up to `s`. -/
def finishFloat (negative : Bool) (digits : Nat) (exponent : Int) (s : List Char) :
    Except Fault (Number × List Char) :=
  match scaled? digits exponent with
  | some x => .ok (.float (if negative then -x else x), s)
  | none => .error (.before .numberTooLarge s)

/-- Digits of an exponent added to `n` while it fits into 32 bits; else the text behind the
first digit that does not. -/
def addExponent (n : Nat) : List Char → Except (List Char) (Nat × List Char)
  | [] => .ok (n, [])
  | c :: s =>
    match digitValue? c with
    | none => .ok (n, c :: s)
    | some d => if n * 10 + d < 0x80000000 then addExponent (n * 10 + d) s else .error s

/-- The rest of a number behind its `e`. -/
def readExponent (negative : Bool) (digits : Nat) (start : Int) (s : List Char) :
    Except Fault (Number × List Char) :=
  let (down, s) : Bool × List Char :=
    match s with
    | '+' :: r => (false, r)
    | '-' :: r => (true, r)
    | r => (false, r)
  match s with
  | [] => .error (.before .endInValue [])
  | c :: r =>
    match digitValue? c with
    | none => .error (.at .badNumber (c :: r))
    | some d =>
      match addExponent d r with
      | .ok (e, r) =>
        finishFloat negative digits (clamp32 (if down then start - e else start + e)) r
      | .error r =>
        if digits ≠ 0 && !down then .error (.before .numberTooLarge r)
        else .ok (.float (if negative then -0.0 else 0.0), r.dropWhile isDigit)

/-- The rest of a number behind all its digits. -/
def readTail (negative : Bool) (digits : Nat) (exponent : Int) (s : List Char) :
    Except Fault (Number × List Char) :=
  match s with
  | 'e' :: r => readExponent negative digits exponent r
  | 'E' :: r => readExponent negative digits exponent r
  | r => finishFloat negative digits exponent r

/-- The rest of a number behind its point. -/
def readFraction (negative : Bool) (digits : Nat) (exponent : Int) (s : List Char) :
    Except Fault (Number × List Char) :=
  let (n, added, r) := addDigits digits s
  if (r.head?.map isDigit).getD false then
    readTail negative n (exponent - added) (r.dropWhile isDigit)
  else if added = 0 then
    match r with
    | [] => .error (.before .endInValue [])
    | _ => .error (.at .badNumber r)
  else readTail negative n (exponent - added) r

/-- An integer with a sign, kept exact when it is in range; a zero with a minus sign is a
double. -/
def exactOrFloat (negative : Bool) (n : Nat) : Number :=
  let exact := if negative then Int.negOfNat n else Int.ofNat n
  match if negative && n = 0 then none else WideInt.ofInt? exact with
  | some i => .integer i
  | none => .float (if negative then -(Float.ofNat n) else Float.ofNat n)

/-- The rest of a number behind an integer part that fits into 64 bits. -/
def readPlain (negative : Bool) (n : Nat) (s : List Char) : Except Fault (Number × List Char) :=
  match s with
  | '.' :: r => readFraction negative n 0 r
  | 'e' :: r => readExponent negative n 0 r
  | 'E' :: r => readExponent negative n 0 r
  | r => .ok (exactOrFloat negative n, r)

/-- A number behind its sign. -/
def readUnsigned (negative : Bool) (s : List Char) : Except Fault (Number × List Char) :=
  match s with
  | [] => .error (.before .endInValue [])
  | '0' :: r =>
    if (r.head?.map isDigit).getD false then .error (.at .badNumber r)
    else readPlain negative 0 r
  | c :: r =>
    match digitValue? c with
    | none => .error (.at .badNumber (c :: r))
    | some d =>
      let (n, _, rest) := addDigits d r
      if (rest.head?.map isDigit).getD false then
        let dropped := (rest.takeWhile isDigit).length
        match rest.dropWhile isDigit with
        | '.' :: q => readFraction negative n dropped q
        | q => readTail negative n dropped q
      else readPlain negative n rest

/-- A number. -/
def readNumber (s : List Char) : Except Fault (Number × List Char) :=
  match s with
  | '-' :: r => readUnsigned true r
  | r => readUnsigned false r

/-- The text behind a number's exponent that is not wanted. -/
def skipExponent (s : List Char) : Except Fault (List Char) :=
  let r :=
    match s with
    | '+' :: r => r
    | '-' :: r => r
    | r => r
  match r with
  | [] => .error (.before .badNumber [])
  | c :: q => if isDigit c then .ok (q.dropWhile isDigit) else .error (.at .badNumber (c :: q))

/-- The text behind the part of a number that follows its integer part, which is not wanted. -/
def skipFraction (s : List Char) : Except Fault (List Char) :=
  match s with
  | '.' :: r =>
    match r with
    | [] => .error (.at .badNumber [])
    | c :: q =>
      if isDigit c then
        match q.dropWhile isDigit with
        | 'e' :: t => skipExponent t
        | 'E' :: t => skipExponent t
        | t => .ok t
      else .error (.at .badNumber (c :: q))
  | 'e' :: r => skipExponent r
  | 'E' :: r => skipExponent r
  | r => .ok r

/-- The text behind a number that is not wanted, without its sign. -/
def skipUnsigned (s : List Char) : Except Fault (List Char) :=
  match s with
  | [] => .error (.before .badNumber [])
  | '0' :: r =>
    if (r.head?.map isDigit).getD false then .error (.at .badNumber r) else skipFraction r
  | c :: r =>
    if isDigit c then skipFraction (r.dropWhile isDigit) else .error (.at .badNumber (c :: r))

/-- The text behind a number that is not wanted. -/
def skipNumber (s : List Char) : Except Fault (List Char) :=
  match s with
  | '-' :: r => skipUnsigned r
  | r => skipUnsigned r

end CompileIndex.Json
