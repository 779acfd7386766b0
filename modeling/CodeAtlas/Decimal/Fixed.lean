import CodeAtlas.Decimal.Dyadic

/-!
Numbers written with a fixed count of decimals: the exact value, rounded once.
-/
namespace CodeAtlas.Decimal

def digits (n : Nat) : List Char := Nat.toDigits 10 n

def padded (width n : Nat) : List Char :=
  let ds := digits n
  List.replicate (width - ds.length) '0' ++ ds

/-- `n` counts units of the last of `places` decimals. -/
def withPoint (places n : Nat) : List Char :=
  if places == 0 then digits n
  else
    let ds := padded (places + 1) n
    ds.take (ds.length - places) ++ '.' :: ds.drop (ds.length - places)

def Dyadic.fixed (places : Nat) (d : Dyadic) : List Char :=
  let (num, den) := d.quotient
  let text := withPoint places (roundHalfEven (num * Nat.pow 10 places) den)
  if d.negative then '-' :: text else text

def Reading.fixed (places : Nat) : Reading → String
  | .nan => "NaN"
  | .infinite negative => if negative then "-inf" else "inf"
  | .finite d => String.ofList (d.fixed places)

def fixed32 (places : Nat) (x : Float32) : String := (ofFloat32 x).fixed places

end CodeAtlas.Decimal
