/-!
Floating-point words as exact numbers: an integer times a power of two. Going back, a number is
rounded to the nearest word.
-/
namespace CodeAtlas.Decimal

/-- The number `mantissa * 2 ^ exponent`, with a sign of its own so that there are two zeros. -/
structure Dyadic where
  negative : Bool
  mantissa : Nat
  exponent : Int
  deriving DecidableEq, Repr

inductive Reading where
  | nan
  | infinite (negative : Bool)
  | finite (value : Dyadic)
  deriving DecidableEq, Repr

def readWord (fraction width : Nat) (word : Nat) : Reading :=
  let negative := word / Nat.pow 2 (fraction + width) % 2 == 1
  let biased := word / Nat.pow 2 fraction % Nat.pow 2 width
  let low := word % Nat.pow 2 fraction
  let bias : Int := Nat.pow 2 (width - 1) - 1
  if biased == Nat.pow 2 width - 1 then
    if low == 0 then .infinite negative else .nan
  else if biased == 0 then .finite ⟨negative, low, 1 - bias - fraction⟩
  else .finite ⟨negative, low + Nat.pow 2 fraction, biased - bias - fraction⟩

def ofFloat (x : Float) : Reading := readWord 52 11 x.toBits.toNat

def ofFloat32 (x : Float32) : Reading := readWord 23 8 x.toBits.toNat

def Dyadic.quotient (d : Dyadic) : Nat × Nat :=
  if 0 ≤ d.exponent then (d.mantissa * Nat.pow 2 d.exponent.toNat, 1)
  else (d.mantissa, Nat.pow 2 (-d.exponent).toNat)

/-- The integer nearest to `num / den`; a half goes to the even neighbour. -/
def roundHalfEven (num den : Nat) : Nat :=
  let q := num / den
  let r := num % den
  if 2 * r < den then q
  else if den < 2 * r then q + 1
  else if q % 2 == 0 then q else q + 1

/-- The nearest binary32 number. -/
def Dyadic.toFloat32 (d : Dyadic) : Float32 :=
  -- the last of the 24 digits, of which the smallest numbers do not have all
  let unit : Int := max (d.exponent + d.mantissa.log2 - 23) (-149)
  let (num, den) := { d with exponent := d.exponent - unit }.quotient
  let word := (unit + 149).toNat * 0x800000 + roundHalfEven num den
  let size : Float32 :=
    if d.mantissa = 0 then 0.0 else .ofBits (.ofNat (min word 0x7f800000))
  if d.negative then -size else size

/-- The binary64 number, for a mantissa and an exponent that a binary32 number has. -/
def Dyadic.toFloat (d : Dyadic) : Float :=
  let power : Float := .ofBits (.ofNat ((d.exponent + 1023).toNat * 0x10000000000000))
  let size := Float.ofNat d.mantissa * power
  if d.negative then -size else size

namespace Reading

def toFloat : Reading → Float
  | .nan => 0.0 / 0.0
  | .infinite negative => if negative then -1.0 / 0.0 else 1.0 / 0.0
  | .finite d => d.toFloat

def toFloat32 : Reading → Float32
  | .nan => 0.0 / 0.0
  | .infinite negative => if negative then -1.0 / 0.0 else 1.0 / 0.0
  | .finite d => d.toFloat32

end Reading

end CodeAtlas.Decimal
