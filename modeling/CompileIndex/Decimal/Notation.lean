import CompileIndex.Decimal.Shortest

/-!
# Decimal notation

Doubles as texts and texts as doubles.  A `Style` says where positional notation ends and
whether a whole number keeps a `.0`; the digits are those of the shortest decimal.
-/

namespace CompileIndex.Decimal

/-- How doubles are written. -/
structure Style where
  /-- The least and the greatest power of ten of the first digit that is written by position;
  none when all are. -/
  positional : Option (Int × Int)
  /-- Whether a whole number keeps a point and a zero. -/
  keepsPoint : Bool
  /-- Whether an exponent that is not negative has a plus sign. -/
  signsExponent : Bool

/-- The digits of a natural number in base ten. -/
def digitsOf (n : Nat) : List Char :=
  Nat.toDigits 10 n

/-- Digits `ds` with the point behind the first `k` of them, where `k` may lie outside. -/
def byPosition (style : Style) (ds : List Char) (k : Int) : List Char :=
  if k ≤ 0 then ['0', '.'] ++ List.replicate (-k).toNat '0' ++ ds
  else if ds.length ≤ k.toNat then
    ds ++ List.replicate (k.toNat - ds.length) '0' ++ (if style.keepsPoint then ['.', '0'] else [])
  else ds.take k.toNat ++ '.' :: ds.drop k.toNat

/-- Digits `ds` with an exponent, where `e` is the power of ten of the first digit. -/
def byExponent (style : Style) (ds : List Char) (e : Int) : List Char :=
  let mantissa :=
    match ds with
    | [d] => [d]
    | d :: more => d :: '.' :: more
    | [] => []
  let sign := if e < 0 then ['-'] else if style.signsExponent then ['+'] else []
  mantissa ++ 'e' :: sign ++ digitsOf e.natAbs

/-- A double above zero, from its shortest decimal. -/
def writeDigits (style : Style) (d : Digits) : List Char :=
  let ds := digitsOf d.digits
  let e := d.exponent + ds.length - 1
  match style.positional with
  | none => byPosition style ds (e + 1)
  | some (low, high) =>
    if low ≤ e && e ≤ high then byPosition style ds (e + 1) else byExponent style ds e

/-- A double as text. -/
def write (style : Style) (x : Float) : String :=
  let bits := x.toBits.toNat
  let sign := if 0x8000000000000000 ≤ bits then ['-'] else []
  let magnitude := bits % 0x8000000000000000
  if 0x7ff0000000000000 < magnitude then "NaN"
  else if magnitude = 0x7ff0000000000000 then String.ofList (sign ++ "inf".toList)
  else
    match Binary.ofBits? magnitude with
    | none => String.ofList (sign ++ '0' :: (if style.keepsPoint then ['.', '0'] else []))
    | some b => String.ofList (sign ++ writeDigits style (shortest b))

/-- The double nearest to `mantissa · 10^exponent`. -/
def nearest (mantissa : Nat) (exponent : Int) : Float :=
  if mantissa = 0 then 0
  else
    let first := exponent + (digitsOf mantissa).length
    if 400 < first then Float.ofBits 0x7ff0000000000000
    else if first < -400 then 0
    else if 0 ≤ exponent then Float.ofScientific mantissa false exponent.toNat
    else Float.ofScientific mantissa true (-exponent).toNat

end CompileIndex.Decimal
