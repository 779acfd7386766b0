import CodeAtlas.Layout.Quadtree

/-!
Forces between bodies: repulsion, which every body feels from every other, and the push that
parts overlapping circles.
-/
namespace CodeAtlas.Layout

variable {α : Type} [Scalar α]

def tau : α := Scalar.decimal 6283185307179586 15

/-- The direction from one body to another, or one that depends on their numbers alone if they are
too close to tell. -/
def parting (delta : Vec α) (distance : α) (i j : Nat) : Vec α :=
  if Scalar.lt (Scalar.decimal 1 4) distance then delta.shrink distance
  else
    Vec.atAngle ((Scalar.ofNat i * Scalar.decimal 618034 6 +
      Scalar.ofNat j * Scalar.decimal 414214 6) * tau)

structure Repulsion (α : Type) where
  strength : α
  softening : α
  theta : α

namespace Repulsion

def felt (r : Repulsion α) (b : Bodies α) (i : Nat) : Quadtree.Influence α → Vec α
  | .body j =>
    let delta := b.position i - b.position j
    let distanceSq := delta.lengthSq
    (parting delta (Scalar.sqrt distanceSq) i j).scale
      (r.strength * b.weight i * b.weight j / (distanceSq + r.softening))
  | .cell c =>
    let delta := b.position i - c.chargeCenter
    let distanceSq := Scalar.max delta.lengthSq (Scalar.decimal 1 4)
    (delta.shrink (Scalar.sqrt distanceSq)).scale
      (r.strength * b.weight i * c.charge / (distanceSq + r.softening))

def on (r : Repulsion α) (b : Bodies α) (tree : Quadtree α) (i : Nat) : Vec α :=
  (tree.influences r.theta i (b.position i)).foldl (fun f x => f + r.felt b i x) Vec.zero

end Repulsion

structure Collision (α : Type) where
  strength : α
  padding : α
  /-- Cells with a larger squared gap hold no bodies that touch. -/
  reachSq : α

namespace Collision

def apart (c : Collision α) (a b : Bounds α) : Bool := Scalar.lt c.reachSq (a.gapSq b)

def overlaps (c : Collision α) (b : Bodies α) (radii : Array α) (i j : Nat) : Bool :=
  let distance := (b.position i - b.position j).length
  !Scalar.le (radii.getD i Scalar.zero + radii.getD j Scalar.zero + c.padding) distance

/-- The push on the first of two overlapping circles; the second feels the opposite. -/
def push (c : Collision α) (b : Bodies α) (radii : Array α) (i j : Nat) : Vec α :=
  let delta := b.position i - b.position j
  let distance := delta.length
  let reach := radii.getD i Scalar.zero + radii.getD j Scalar.zero + c.padding
  (parting delta distance i j).scale ((reach - distance) * c.strength)

def partPair (c : Collision α) (b : Bodies α) (radii : Array α) (forces : Array (Vec α))
    (pair : Nat × Nat) : Array (Vec α) :=
  let (i, j) := pair
  if c.overlaps b radii i j then
    let p := c.push b radii i j
    (forces.modify i (· + p)).modify j (· - p)
  else forces

def partAll (c : Collision α) (b : Bodies α) (radii : Array α) (tree : Quadtree α)
    (forces : Array (Vec α)) : Array (Vec α) :=
  (tree.within c.apart).foldl (c.partPair b radii) forces

end Collision

end CodeAtlas.Layout
