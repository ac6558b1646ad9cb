/-!
# UTF-8

Bytes read as characters.  `scan` cuts a byte sequence into characters and malformed pieces,
each malformed piece being the longest start of a character that the next byte breaks off.

* `decode?` — the characters of a well-formed sequence;
* `decodeLossy` — the characters with U+FFFD for every malformed piece;
* `encode` — the bytes of a text;
* `splitBytes` — a text cut behind some number of bytes.
-/

namespace CompileIndex.Text.Utf8

/-- A character of which some bytes are still owed: the least and the greatest next byte, how
many bytes follow that one, and the bits read so far. -/
structure Pending where
  low : UInt8
  high : UInt8
  more : Nat
  bits : Nat
  deriving DecidableEq

/-- What a byte starts. -/
inductive Start where
  /-- It is a character of its own. -/
  | whole (c : Char)
  /-- It is the first byte of a longer character. -/
  | part (p : Pending)
  /-- No character starts with it. -/
  | malformed

/-- What byte `b` starts. -/
def start (b : UInt8) : Start :=
  let n := b.toNat
  if n ≤ 0x7f then .whole (Char.ofNat n)
  else if 0xc2 ≤ n && n ≤ 0xdf then .part ⟨0x80, 0xbf, 0, n % 32⟩
  else if n = 0xe0 then .part ⟨0xa0, 0xbf, 1, 0⟩
  else if n = 0xed then .part ⟨0x80, 0x9f, 1, 13⟩
  else if 0xe1 ≤ n && n ≤ 0xef then .part ⟨0x80, 0xbf, 1, n % 16⟩
  else if n = 0xf0 then .part ⟨0x90, 0xbf, 2, 0⟩
  else if 0xf1 ≤ n && n ≤ 0xf3 then .part ⟨0x80, 0xbf, 2, n % 8⟩
  else if n = 0xf4 then .part ⟨0x80, 0x8f, 2, 4⟩
  else .malformed

/-- What byte `b` completes when nothing is owed, and what is owed after it. -/
def fresh (b : UInt8) : List (Option Char) × Option Pending :=
  match start b with
  | .whole c => ([some c], none)
  | .part p => ([], some p)
  | .malformed => ([none], none)

/-- What byte `b` completes, and what is owed after it. -/
def step : Option Pending → UInt8 → List (Option Char) × Option Pending
  | none, b => fresh b
  | some p, b =>
    if p.low ≤ b && b ≤ p.high then
      let bits := p.bits * 64 + b.toNat % 64
      match p.more with
      | 0 => ([some (Char.ofNat bits)], none)
      | n + 1 => ([], some ⟨0x80, 0xbf, n, bits⟩)
    else
      let (done, owed) := fresh b
      (none :: done, owed)

/-- The rest of a byte sequence cut into characters and malformed pieces (`none`), where
`owed` is the character begun before it. -/
def scanFrom (owed : Option Pending) : List UInt8 → List (Option Char)
  | [] => if owed.isSome then [none] else []
  | b :: rest => (step owed b).1 ++ scanFrom (step owed b).2 rest

/-- A byte sequence cut into characters and malformed pieces (`none`). -/
def scan (bytes : List UInt8) : List (Option Char) :=
  scanFrom none bytes

/-- The characters of a well-formed byte sequence. -/
def decode? (bytes : List UInt8) : Option (List Char) :=
  (scan bytes).mapM id

/-- The character that stands for a malformed piece. -/
def replacement : Char := Char.ofNat 0xfffd

/-- The characters of a byte sequence, with U+FFFD for every malformed piece. -/
def decodeLossy (bytes : List UInt8) : List Char :=
  (scan bytes).map (·.getD replacement)

/-- The bytes of a text. -/
def encode (text : String) : List UInt8 :=
  text.toUTF8.toList

/-- How many bytes some characters take. -/
def size (cs : List Char) : Nat :=
  cs.foldr (fun c n => c.utf8Size + n) 0

/-- The first characters that fit into `n` bytes, and the characters behind them. -/
def splitBytes (n : Nat) : List Char → List Char × List Char
  | [] => ([], [])
  | c :: cs =>
    if c.utf8Size ≤ n then
      let (fitting, rest) := splitBytes (n - c.utf8Size) cs
      (c :: fitting, rest)
    else ([], c :: cs)

end CompileIndex.Text.Utf8
