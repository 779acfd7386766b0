import CodeAtlas.Decimal.Dyadic

/-!
The arithmetic that positions and forces need. The viewer runs it in binary32, where every
operation rounds once; the same definitions can be read over any other number type that has these
operations.
-/
namespace CodeAtlas

class Scalar (α : Type) extends Add α, Sub α, Mul α, Div α, Neg α where
  /-- The decimal `m / 10 ^ places`. -/
  decimal (m places : Nat) : α
  /-- The fraction `n / (2 ^ 32 - 1)`. -/
  fraction (n : Nat) : α
  lt : α → α → Bool
  le : α → α → Bool
  /-- Equality as the numbers compare, so that no value need equal itself. -/
  eq : α → α → Bool
  isFinite : α → Bool
  infinity : α
  sqrt : α → α
  /-- The length of a vector. -/
  hypot : α → α → α
  cos : α → α
  sin : α → α
  pow : α → α → α

namespace Scalar

variable {α : Type} [Scalar α]

@[inline] def ofNat (n : Nat) : α := decimal n 0

@[inline] def zero : α := ofNat 0

@[inline] def one : α := ofNat 1

/-- The larger; the other one if either does not compare with itself. -/
@[inline] def max (a b : α) : α := if !eq a a || lt a b then b else a

@[inline] def min (a b : α) : α := if !eq a a || lt b a then b else a

@[inline] def abs (a : α) : α := if lt a zero then -a else a

/-- Into the range from `lo` to `hi`; a value that does not compare stays. -/
@[inline] def clamp (lo hi a : α) : α :=
  let a := if lt a lo then lo else a
  if lt hi a then hi else a

end Scalar

/-! `Float32.toFloat` and `Float.toFloat32` would do, but cannot be evaluated in proofs. -/

def widen (x : Float32) : Float := (Decimal.ofFloat32 x).toFloat

def narrow (x : Float) : Float32 := (Decimal.ofFloat x).toFloat32

/-- The length is computed in binary64 and rounded once. An infinite side makes it infinite, even
beside a side that is no number. -/
def hypot32 (x y : Float32) : Float32 :=
  if x.isInf || y.isInf then 1.0 / 0.0
  else
    let a := widen x
    let b := widen y
    narrow (a * a + b * b).sqrt

instance : Scalar Float32 where
  decimal m places := Float32.ofScientific m true places
  fraction n := narrow (Float.ofNat n / 4294967295.0)
  lt a b := decide (a < b)
  le a b := decide (a ≤ b)
  eq a b := a == b
  isFinite := Float32.isFinite
  infinity := 1.0 / 0.0
  sqrt := Float32.sqrt
  hypot := hypot32
  cos := Float32.cos
  sin := Float32.sin
  pow := Float32.pow

instance : Scalar Float where
  decimal m places := Float.ofScientific m true places
  fraction n := Float.ofNat n / 4294967295.0
  lt a b := decide (a < b)
  le a b := decide (a ≤ b)
  eq a b := a == b
  isFinite := Float.isFinite
  infinity := 1.0 / 0.0
  sqrt := Float.sqrt
  hypot x y := (x * x + y * y).sqrt
  cos := Float.cos
  sin := Float.sin
  pow := Float.pow

class Rounds (τ α : Type) where
  round : τ → α

instance : Rounds Float Float32 := ⟨narrow⟩

end CodeAtlas
