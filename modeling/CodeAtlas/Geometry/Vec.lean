import CodeAtlas.Geometry.Scalar

/-!
Points and displacements of the plane.
-/
namespace CodeAtlas

@[ext]
structure Vec (α : Type) where
  x : α
  y : α
  deriving DecidableEq, Repr

namespace Vec

variable {α : Type} [Scalar α]

def zero : Vec α := ⟨Scalar.zero, Scalar.zero⟩

def square (a : α) : Vec α := ⟨a, a⟩

def scale (v : Vec α) (k : α) : Vec α := ⟨v.x * k, v.y * k⟩

def shrink (v : Vec α) (k : α) : Vec α := ⟨v.x / k, v.y / k⟩

instance : Add (Vec α) := ⟨fun a b => ⟨a.x + b.x, a.y + b.y⟩⟩

instance : Sub (Vec α) := ⟨fun a b => ⟨a.x - b.x, a.y - b.y⟩⟩

def lengthSq (v : Vec α) : α := v.x * v.x + v.y * v.y

def length (v : Vec α) : α := Scalar.hypot v.x v.y

def dot (a b : Vec α) : α := a.x * b.x + a.y * b.y

def abs (v : Vec α) : Vec α := ⟨Scalar.abs v.x, Scalar.abs v.y⟩

def min (a b : Vec α) : Vec α := ⟨Scalar.min a.x b.x, Scalar.min a.y b.y⟩

def max (a b : Vec α) : Vec α := ⟨Scalar.max a.x b.x, Scalar.max a.y b.y⟩

/-- Equality as the coordinates compare. -/
def same (a b : Vec α) : Bool := Scalar.eq a.x b.x && Scalar.eq a.y b.y

def atAngle (angle : α) : Vec α := ⟨Scalar.cos angle, Scalar.sin angle⟩

end Vec

end CodeAtlas
