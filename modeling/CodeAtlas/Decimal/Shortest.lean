import CodeAtlas.Decimal.Fixed

/-!
The fewest decimal digits that read back as the same binary64 number, and two ways to write them.
-/
namespace CodeAtlas.Decimal

structure Scaled where
  significand : Nat
  exponent : Int
  deriving DecidableEq, Repr

/-- The reals that round to a number, as quotients over one denominator: the number itself, the
two ends, and whether the ends belong. -/
structure Basin where
  value : Nat
  low : Nat
  high : Nat
  den : Nat
  closed : Bool
  deriving DecidableEq, Repr

/-- The basin of `mantissa * 2 ^ exponent`. Below a power of two the gap is half as wide, except
at the smallest exponent. -/
def basin (d : Dyadic) : Basin :=
  let narrow := d.mantissa == Nat.pow 2 52 && d.exponent != -1074
  let (scale, den) :=
    if 2 ≤ d.exponent then (Nat.pow 2 (d.exponent - 2).toNat, 1)
    else (1, Nat.pow 2 (2 - d.exponent).toNat)
  { value := 4 * d.mantissa * scale
    low := (4 * d.mantissa - if narrow then 1 else 2) * scale
    high := (4 * d.mantissa + 2) * scale
    den
    closed := d.mantissa % 2 == 0 }

def Basin.holds (b : Basin) (num den : Nat) : Bool :=
  -- num / den against low / b.den and high / b.den
  let x := num * b.den
  if b.closed then b.low * den ≤ x && x ≤ b.high * den else b.low * den < x && x < b.high * den

def leastPower (num den : Nat) : Nat → Nat → Nat
  | 0, j => j
  | fuel + 1, j => if den ≤ num * Nat.pow 10 j then j else leastPower num den fuel (j + 1)

def decade (num den : Nat) : Int :=
  if den ≤ num then ((digits (num / den)).length : Int) - 1
  else -(leastPower num den 400 1 : Int)

/-- The point of the grid `10 ^ e` that is nearest to the value and reads back, if one does. -/
def Basin.candidate (b : Basin) (e : Int) : Option Nat :=
  let up := Nat.pow 10 e.toNat
  let down := Nat.pow 10 (-e).toNat
  -- value / 10 ^ e = (value * down) / (den * up)
  let num := b.value * down
  let den := b.den * up
  let below := num / den
  let fits (n : Nat) : Bool := b.holds (n * up) down
  let nearer := if roundHalfEven num den == below then below else below + 1
  let other := if nearer == below then below + 1 else below
  if fits nearer then some nearer else if fits other then some other else none

def shortestFrom (b : Basin) (lead : Int) : Nat → Nat → Scaled
  | 0, _ => ⟨0, 0⟩
  | fuel + 1, count =>
    let e := lead - (count : Int) + 1
    match b.candidate e with
    | some n => ⟨n, e⟩
    | none => shortestFrom b lead fuel (count + 1)

def stripZeros : Nat → Scaled → Scaled
  | 0, s => s
  | fuel + 1, s =>
    if s.significand != 0 && s.significand % 10 == 0 then stripZeros fuel ⟨s.significand / 10, s.exponent + 1⟩
    else s

/-- The fewest digits that read back, without trailing zeros; of several, the nearest. -/
def shortest (d : Dyadic) : Scaled :=
  if d.mantissa == 0 then ⟨0, 0⟩
  else
    let b := basin d
    stripZeros 20 (shortestFrom b (decade b.value b.den) 18 1)

/-- The digits with the point in its place: never an exponent, and always a point. -/
def Scaled.positional (s : Scaled) : List Char :=
  let ds := digits s.significand
  let point : Int := (ds.length : Int) + s.exponent
  if 0 ≤ s.exponent then ds ++ List.replicate s.exponent.toNat '0' ++ ['.', '0']
  else if 0 < point then ds.take point.toNat ++ '.' :: ds.drop point.toNat
  else ['0', '.'] ++ List.replicate (-point).toNat '0' ++ ds

def Scaled.scientific (s : Scaled) : List Char :=
  let ds := digits s.significand
  let lead : Int := (ds.length : Int) + s.exponent - 1
  let mantissa := match ds with
    | [] => []
    | [d] => [d]
    | d :: rest => d :: '.' :: rest
  mantissa ++ 'e' :: (if lead < 0 then '-' else '+') :: digits lead.natAbs

/-- Positional from `1e-5` up to, but not including, `1e16`; an exponent beyond. -/
def Scaled.compact (s : Scaled) : List Char :=
  let lead : Int := ((digits s.significand).length : Int) + s.exponent - 1
  if s.significand == 0 || (-5 ≤ lead && lead < 16) then s.positional else s.scientific

def signed (negative : Bool) (text : List Char) : String :=
  String.ofList (if negative then '-' :: text else text)

def compact64 (x : Float) : String :=
  match ofFloat x with
  | .finite d => signed d.negative (shortest d).compact
  | _ => "null"

def positional64 (x : Float) : String :=
  match ofFloat x with
  | .finite d => signed d.negative (shortest d).positional
  | .infinite negative => if negative then "-inf" else "inf"
  | .nan => "NaN"

end CodeAtlas.Decimal
