import CodeAtlas.Geometry.Vec

/-!
Upright rectangles of the screen.
-/
namespace CodeAtlas

structure Rect (α : Type) where
  min : Vec α
  max : Vec α
  deriving DecidableEq, Repr

namespace Rect

variable {α : Type} [Scalar α]

def size (r : Rect α) : Vec α := r.max - r.min

/-- Whether a circle has a point in common with the rectangle's columns and with its rows. -/
def meetsCircle (r : Rect α) (center : Vec α) (radius : α) : Bool :=
  !(Scalar.lt (center.x + radius) r.min.x || Scalar.lt r.max.x (center.x - radius) ||
    Scalar.lt (center.y + radius) r.min.y || Scalar.lt r.max.y (center.y - radius))

def meetsSegment (r : Rect α) (start stop : Vec α) (margin : α) : Bool :=
  let low := start.min stop
  let high := start.max stop
  !(Scalar.lt (high.x + margin) r.min.x || Scalar.lt r.max.x (low.x - margin) ||
    Scalar.lt (high.y + margin) r.min.y || Scalar.lt r.max.y (low.y - margin))

end Rect

end CodeAtlas
