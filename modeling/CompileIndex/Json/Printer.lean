import CompileIndex.Json.Value

/-!
# JSON texts of values

Compact texts without spaces, and texts indented by two spaces.  Strings escape the double
quote, the backslash and the characters below the space, and nothing else; so no text holds a
raw line feed except between the lines of an indented one.
-/

namespace CompileIndex.Json

/-- Doubles in JSON texts: by position from `1e-5` to below `1e16`, always with a fraction. -/
def floatStyle : Decimal.Style :=
  ⟨some (-5, 15), true, true⟩

/-- One hexadecimal digit in lower case. -/
def hexDigit (n : Nat) : Char :=
  if n < 10 then Char.ofNat (48 + n) else Char.ofNat (87 + n)

/-- One character inside a string. -/
def escaped (c : Char) : List Char :=
  if c = '"' then ['\\', '"']
  else if c = '\\' then ['\\', '\\']
  else if c.toNat < 32 then
    if c.toNat = 8 then ['\\', 'b']
    else if c = '\t' then ['\\', 't']
    else if c = '\n' then ['\\', 'n']
    else if c.toNat = 12 then ['\\', 'f']
    else if c = '\r' then ['\\', 'r']
    else ['\\', 'u', '0', '0', hexDigit (c.toNat / 16), hexDigit (c.toNat % 16)]
  else [c]

/-- A string between quotes. -/
def quote (s : String) : List Char :=
  '"' :: s.toList.flatMap escaped ++ ['"']

/-- The digits of an integer. -/
def printInt (n : Int) : List Char :=
  if n < 0 then '-' :: Decimal.digitsOf n.natAbs else Decimal.digitsOf n.natAbs

/-- A double; JSON has no text for infinities and for what is no number. -/
def printFloat (x : Float) : List Char :=
  if x.isFinite then (Decimal.write floatStyle x).toList else "null".toList

mutual

/-- A value without spaces. -/
def compact : Json → List Char
  | null => ['n', 'u', 'l', 'l']
  | bool true => ['t', 'r', 'u', 'e']
  | bool false => ['f', 'a', 'l', 's', 'e']
  | integer n => printInt n.value
  | float x => printFloat x
  | string s => quote s
  | array [] => ['[', ']']
  | array (v :: rest) => '[' :: compact v ++ compactItems rest
  | object [] => ['\x7b', '\x7d']
  | object ((name, v) :: rest) =>
    '\x7b' :: quote name ++ ':' :: compact v ++ compactMembers rest

/-- The items behind the first, and the closing bracket. -/
def compactItems : List Json → List Char
  | [] => [']']
  | v :: rest => ',' :: compact v ++ compactItems rest

/-- The members behind the first, and the closing brace. -/
def compactMembers : List (String × Json) → List Char
  | [] => ['\x7d']
  | (name, v) :: rest => ',' :: quote name ++ ':' :: compact v ++ compactMembers rest

end

/-- The compact text of a value. -/
def text (v : Json) : String :=
  String.ofList (compact v)

/-- A line end and the spaces in front of a line at depth `n`. -/
def newline (n : Nat) : List Char :=
  '\n' :: List.replicate (2 * n) ' '

mutual

/-- A value at depth `n`, with items and members on lines of their own. -/
def indented (n : Nat) : Json → List Char
  | array [] => ['[', ']']
  | array (v :: rest) => '[' :: newline (n + 1) ++ indented (n + 1) v ++ indentedItems n rest
  | object [] => ['\x7b', '\x7d']
  | object ((name, v) :: rest) =>
    '\x7b' :: newline (n + 1) ++ quote name ++ ':' :: ' ' :: indented (n + 1) v
      ++ indentedMembers n rest
  | other => compact other

/-- The items behind the first, and the closing bracket, of an array at depth `n`. -/
def indentedItems (n : Nat) : List Json → List Char
  | [] => newline n ++ [']']
  | v :: rest => ',' :: newline (n + 1) ++ indented (n + 1) v ++ indentedItems n rest

/-- The members behind the first, and the closing brace, of an object at depth `n`. -/
def indentedMembers (n : Nat) : List (String × Json) → List Char
  | [] => newline n ++ ['\x7d']
  | (name, v) :: rest =>
    ',' :: newline (n + 1) ++ quote name ++ ':' :: ' ' :: indented (n + 1) v
      ++ indentedMembers n rest

end

/-- The indented text of a value. -/
def pretty (v : Json) : String :=
  String.ofList (indented 0 v)

end CompileIndex.Json
