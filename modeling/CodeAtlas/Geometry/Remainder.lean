import CodeAtlas.Decimal.Dyadic
import CodeAtlas.Geometry.Scalar

/-!
Remainders of binary32 numbers. A remainder lies on the finer grid of the two numbers, so it is a
binary32 number itself and nothing is rounded.
-/
namespace CodeAtlas

namespace Decimal

/-- What is left of `a` when multiples of `b` are taken away towards zero; it has the sign of
`a`. -/
def Dyadic.rest (a b : Dyadic) : Dyadic :=
  let grid := min a.exponent b.exponent
  let units (d : Dyadic) : Nat := d.mantissa * Nat.pow 2 (d.exponent - grid).toNat
  ⟨a.negative, units a % units b, grid⟩

end Decimal

def remainder32 (a b : Float32) : Float32 :=
  match Decimal.ofFloat32 a, Decimal.ofFloat32 b with
  | .finite x, .finite y => if y.mantissa = 0 then 0.0 / 0.0 else (x.rest y).toFloat32
  | .finite _, .infinite _ => a
  | _, _ => 0.0 / 0.0

def positiveRemainder32 (a b : Float32) : Float32 :=
  let r := remainder32 a b
  if r < 0.0 then r + Scalar.abs b else r

end CodeAtlas
