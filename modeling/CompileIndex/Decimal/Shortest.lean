/-!
# Shortest decimals

The decimal of fewest digits that a binary fraction of double precision is the nearest such
fraction to.  All arithmetic is on natural numbers: a positive double is `m · 2^q`, the reals
that round to it form an interval around it, and for one digit, two digits and so on the two
neighbours of the value on that decimal grid are tried.

* `Binary.ofBits?` — a finite positive double as `m · 2^q`;
* `shortest` — the digits and the exponent of its shortest decimal.
-/

namespace CompileIndex.Decimal

/-- The number `m · 2^q`, and whether it is the least double of its binade, so that the
interval of reals that round to it is narrower below. -/
structure Binary where
  m : Nat
  q : Int
  narrow : Bool
  deriving DecidableEq, Repr

/-- A finite double above zero, from its bits without the sign. -/
def Binary.ofBits? (bits : Nat) : Option Binary :=
  let fraction : Nat := bits % 0x10000000000000
  let exponent : Nat := bits / 0x10000000000000 % 0x800
  if exponent = 2047 then none
  else if exponent = 0 then
    if fraction = 0 then none else some ⟨fraction, -1074, false⟩
  else some ⟨fraction + 0x10000000000000, (exponent : Int) - 1075, fraction = 0 && 1 < exponent⟩

/-- The value and the two ends of its interval over one denominator:
`low / den < value / den < high / den`. -/
structure Scaled where
  low : Nat
  value : Nat
  high : Nat
  den : Nat
  deriving Repr

/-- A binary number and its interval as fractions. -/
def Binary.scaled (b : Binary) : Scaled :=
  let value := 4 * b.m
  let low := if b.narrow then value - 1 else value - 2
  let high := value + 2
  if 0 ≤ b.q then
    let f := Nat.pow 2 b.q.toNat
    ⟨low * f, value * f, high * f, 4⟩
  else ⟨low, value, high, 4 * Nat.pow 2 (-b.q).toNat⟩

/-- `digits · 10^exponent`. -/
structure Digits where
  digits : Nat
  exponent : Int
  deriving DecidableEq, Repr

/-- The fraction `s` with `10^k` taken out of it. -/
def Scaled.shift (s : Scaled) (k : Int) : Scaled :=
  if 0 ≤ k then { s with den := s.den * Nat.pow 10 k.toNat }
  else
    let f := Nat.pow 10 (-k).toNat
    ⟨s.low * f, s.value * f, s.high * f, s.den⟩

/-- Whether the integer `n` lies in the interval; the ends belong to it when `closed`. -/
def Scaled.holds (s : Scaled) (closed : Bool) (n : Nat) : Bool :=
  let x := n * s.den
  if closed then s.low ≤ x && x ≤ s.high else s.low < x && x < s.high

/-- The neighbour of the value on the grid of integers that lies in the interval; of two the
nearer, of two equally near the even one. -/
def Scaled.onGrid? (s : Scaled) (closed : Bool) : Option Nat :=
  let down := s.value / s.den
  let up := down + 1
  match s.holds closed down && 0 < down, s.holds closed up with
  | true, true =>
    let below := s.value - down * s.den
    let above := up * s.den - s.value
    if below < above then some down
    else if above < below then some up
    else if down % 2 = 0 then some down else some up
  | true, false => some down
  | false, true => some up
  | false, false => none

/-- The first grid with a hit, from the grid of step `10^k` on to finer ones. -/
def search (s : Scaled) (closed : Bool) : Nat → Int → Digits
  | 0, k => ⟨(s.shift k).value / (s.shift k).den, k⟩
  | n + 1, k =>
    match (s.shift k).onGrid? closed with
    | some d => ⟨d, k⟩
    | none => search s closed n (k - 1)

/-- Trailing zeros moved into the exponent. -/
def dropZeros : Nat → Digits → Digits
  | 0, d => d
  | n + 1, d =>
    if d.digits % 10 = 0 && d.digits ≠ 0 then dropZeros n ⟨d.digits / 10, d.exponent + 1⟩ else d

/-- The greatest power of ten that is not above the value, as an exponent. -/
def magnitude (s : Scaled) : Int :=
  let digits := (Nat.toDigits 10 (s.value / s.den)).length
  if s.den ≤ s.value then (digits : Int) - 1
  else
    Int.negOfNat (Nat.toDigits 10 (s.den / s.value)).length

/-- The shortest decimal of a double. -/
def shortest (b : Binary) : Digits :=
  let s := b.scaled
  dropZeros 20 (search s (b.m % 2 = 0) 20 (magnitude s + 1))

end CompileIndex.Decimal
