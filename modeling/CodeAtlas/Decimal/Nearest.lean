/-!
Binary numbers for decimal ones.
-/
namespace CodeAtlas.Decimal

def nearest? (m : Nat) (e : Int) : Option Float :=
  let size := (Nat.toDigits 10 m).length + e
  if m = 0 || size < -400 then some 0.0
  else if size > 400 then none
  else
    let x := if e < 0 then Float.ofScientific m true (-e).toNat else Float.ofScientific m false e.toNat
    if x.isInf then none else some x

end CodeAtlas.Decimal
