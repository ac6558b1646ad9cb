import CompileIndex.Json.Printer
import CompileIndex.Text.Quoted
import CompileIndex.Text.Utf8

/-!
# Faults in JSON texts

Why a text, or a value, could not be read, and where.  A fault of a text remembers what was
left to read, so that its line and column are computed from the whole text at the end; columns
count bytes.
-/

namespace CompileIndex.Json

/-- What stands where something else is wanted. -/
inductive Found where
  | null
  | bool (b : Bool)
  | integer (n : Int)
  | float (x : Float)
  | string (s : String)
  | array
  | object

/-- A found value as messages name it. -/
def Found.describe : Found → String
  | null => "null"
  | bool b => "boolean `" ++ (if b then "true" else "false") ++ "`"
  | integer n => "integer `" ++ String.ofList (printInt n) ++ "`"
  | float x => "floating point `" ++ Decimal.write floatStyle x ++ "`"
  | string s => "string " ++ Text.quoted s
  | array => "sequence"
  | object => "map"

/-- What a value is when it stands where something else is wanted. -/
def found : Json → Found
  | null => .null
  | bool b => .bool b
  | integer n => .integer n.value
  | float x => .float x
  | string s => .string s
  | array _ => .array
  | object _ => .object

/-- What is wrong with a text or a value. -/
inductive Cause where
  | endInArray
  | endInObject
  | endInString
  | endInValue
  | expectedColon
  | expectedCommaOrBracket
  | expectedCommaOrBrace
  | expectedWord
  | expectedValue
  | badEscape
  | badNumber
  | numberTooLarge
  | controlCharacter
  | nameNotString
  | loneSurrogate
  | cutSurrogate
  | trailingComma
  | trailingText
  | tooDeep
  /-- A value of another kind than the wanted one. -/
  | wrongKind (found : Found) (wanted : String)
  /-- A number out of the wanted range. -/
  | wrongValue (found : Found) (wanted : String)
  /-- An array with too few or too many items. -/
  | wrongLength (length : Nat) (wanted : String)
  | missingMember (name : String)
  | repeatedMember (name : String)
  /-- A word that is none of the allowed ones. -/
  | unknownWord (word : String) (allowed : List String)

/-- Words between back quotes, separated by commas. -/
def listed (words : List String) : String :=
  String.intercalate ", " (words.map fun w => "`" ++ w ++ "`")

/-- The wording of a cause. -/
def Cause.message : Cause → String
  | endInArray => "EOF while parsing a list"
  | endInObject => "EOF while parsing an object"
  | endInString => "EOF while parsing a string"
  | endInValue => "EOF while parsing a value"
  | expectedColon => "expected `:`"
  | expectedCommaOrBracket => "expected `,` or `]`"
  | expectedCommaOrBrace => "expected `,` or `\x7d`"
  | expectedWord => "expected ident"
  | expectedValue => "expected value"
  | badEscape => "invalid escape"
  | badNumber => "invalid number"
  | numberTooLarge => "number out of range"
  | controlCharacter => "control character (\\u0000-\\u001F) found while parsing a string"
  | nameNotString => "key must be a string"
  | loneSurrogate => "lone leading surrogate in hex escape"
  | cutSurrogate => "unexpected end of hex escape"
  | trailingComma => "trailing comma"
  | trailingText => "trailing characters"
  | tooDeep => "recursion limit exceeded"
  | wrongKind f wanted => "invalid type: " ++ f.describe ++ ", expected " ++ wanted
  | wrongValue f wanted => "invalid value: " ++ f.describe ++ ", expected " ++ wanted
  | wrongLength n wanted => "invalid length " ++ toString n ++ ", expected " ++ wanted
  | missingMember name => "missing field `" ++ name ++ "`"
  | repeatedMember name => "duplicate field `" ++ name ++ "`"
  | unknownWord w allowed => "unknown variant `" ++ w ++ "`, expected one of " ++ listed allowed

/-- A cause and where it arose: in front of `rest`, or up to `ahead` bytes further. -/
structure Fault where
  cause : Cause
  rest : List Char
  ahead : Nat

/-- A fault right in front of `rest`. -/
def Fault.before (cause : Cause) (rest : List Char) : Fault :=
  ⟨cause, rest, 0⟩

/-- A fault at the byte that `rest` starts with. -/
def Fault.at (cause : Cause) (rest : List Char) : Fault :=
  ⟨cause, rest, 1⟩

/-- A line, counted from one, and how many bytes of it came before. -/
structure Place where
  line : Nat
  column : Nat
  deriving DecidableEq, Repr

/-- The place behind some bytes. -/
def Place.after (bytes : List UInt8) : Place :=
  ⟨1 + bytes.count 10, (bytes.reverse.takeWhile (· ≠ 10)).length⟩

/-- Where in a text a fault arose. -/
def Fault.place (text : List Char) (f : Fault) : Place :=
  let read := Text.Utf8.size text - Text.Utf8.size f.rest + min f.ahead (Text.Utf8.size f.rest)
  Place.after ((Text.Utf8.encode (String.ofList text)).take read)

/-- The wording of a fault in a text, with its place. -/
def Fault.message (text : List Char) (f : Fault) : String :=
  let p := f.place text
  f.cause.message ++ " at line " ++ toString p.line ++ " column " ++ toString p.column

end CompileIndex.Json
