import CodeAtlas.Geometry.Vec

/-!
A quadtree over numbered bodies. Each cell knows the sum of the weights below it and their
weighted mean position. Leaves list their bodies in ascending order; the list of a cell is cleared
once it has children. The traversals that forces need are given as lists: the pairs of bodies that may
touch, and what one body feels from the others.
-/
namespace CodeAtlas.Layout

variable {α : Type} [Scalar α]

structure Bounds (α : Type) where
  center : Vec α
  half : α

namespace Bounds

/-- A square around all points, none if a coordinate is not finite or there is no point. -/
def around (points : Array (Vec α)) : Option (Bounds α) :=
  let lo := points.foldl Vec.min (Vec.square Scalar.infinity)
  let hi := points.foldl Vec.max (Vec.square (-Scalar.infinity))
  if Scalar.isFinite lo.x && Scalar.isFinite lo.y && Scalar.isFinite hi.x && Scalar.isFinite hi.y then
    let span := Vec.max (hi - lo) (Vec.square Scalar.one)
    let half : α := Scalar.decimal 5 1
    some ⟨(lo + hi).scale half, Scalar.max span.x span.y * half + Scalar.one⟩
  else none

def contains (b : Bounds α) (p : Vec α) : Bool :=
  let offset := (p - b.center).abs
  Scalar.le offset.x b.half && Scalar.le offset.y b.half

def quarter (b : Bounds α) (right below : Bool) : Bounds α :=
  let q := b.half * Scalar.decimal 5 1
  ⟨b.center + ⟨if right then q else -q, if below then q else -q⟩, q⟩

def quarterOf (b : Bounds α) (p : Vec α) : Bool × Bool :=
  (Scalar.le b.center.x p.x, Scalar.le b.center.y p.y)

def side (b : Bounds α) : α := b.half * Scalar.ofNat 2

def gapSq (a b : Bounds α) : α :=
  (Vec.max ((a.center - b.center).abs - Vec.square (a.half + b.half)) Vec.zero).lengthSq

end Bounds

/-- What is known of a cell: its square, and the charge below it with its mean position. -/
structure Cell (α : Type) where
  bounds : Bounds α
  charge : α
  chargeCenter : Vec α

inductive Quadtree (α : Type) where
  | leaf (cell : Cell α) (bodies : List Nat)
  | fork (cell : Cell α) (bodies : List Nat) (children : List (Quadtree α))

structure Bodies (α : Type) where
  positions : Array (Vec α)
  weights : Array α

namespace Bodies

def position (b : Bodies α) (i : Nat) : Vec α := b.positions.getD i Vec.zero

def weight (b : Bodies α) (i : Nat) : α := b.weights.getD i Scalar.one

def cell (b : Bodies α) (bounds : Bounds α) (indices : List Nat) : Cell α :=
  let weighted := indices.foldl (fun v i => v + (b.position i).scale (b.weight i)) Vec.zero
  let charge := indices.foldl (fun c i => c + b.weight i) Scalar.zero
  ⟨bounds, charge, if Scalar.lt Scalar.zero charge then weighted.shrink charge else bounds.center⟩

end Bodies

namespace Quadtree

def leafCapacity : Nat := 12

def maxDepth : Nat := 10

def quarters : List (Bool × Bool) := [(false, false), (true, false), (false, true), (true, true)]

/-- The bodies in each quarter that has some. -/
def buckets (b : Bodies α) (bounds : Bounds α) (indices : List Nat) :
    List (Bounds α × List Nat) :=
  quarters.filterMap fun q =>
    let bucket := indices.filter fun i => bounds.quarterOf (b.position i) = q
    if bucket.isEmpty then none else some (bounds.quarter q.1 q.2, bucket)

def listed : Quadtree α → List Nat
  | .leaf _ is | .fork _ is _ => is

def clear : Quadtree α → Quadtree α
  | .leaf c _ => .leaf c []
  | .fork c _ ts => .fork c [] ts

/-- The tree of some bodies, with splits left. Bodies that all fall into one quarter stay
together. -/
def grow (b : Bodies α) : Nat → Bounds α → List Nat → Quadtree α
  | 0, bounds, indices => .leaf (b.cell bounds indices) indices
  | splits + 1, bounds, indices =>
    let cell := b.cell bounds indices
    if indices.length ≤ leafCapacity then .leaf cell indices
    else
      let parts := buckets b bounds indices
      if parts.length ≤ 1 then .leaf cell indices
      else (Quadtree.fork cell indices (parts.map fun part => grow b splits part.1 part.2)).clear

/-- The tree of all bodies, none if a position is not finite or there is no body. -/
def build (b : Bodies α) : Option (Quadtree α) :=
  (Bounds.around b.positions).map fun bounds => grow b maxDepth bounds (List.range b.positions.size)

def cell : Quadtree α → Cell α
  | .leaf c _ | .fork c _ _ => c

def bounds (t : Quadtree α) : Bounds α := t.cell.bounds

/-! ### Pairs -/

def pairsOf : List Nat → List (Nat × Nat)
  | [] => []
  | i :: is => is.map (fun j => (i, j)) ++ pairsOf is

/-- The pairs with one body below each of two cells, apart from those below cells that are too far
from each other. The larger cell is opened first. -/
def across (apart : Bounds α → Bounds α → Bool) (s t : Quadtree α) : List (Nat × Nat) :=
  if apart s.bounds t.bounds then []
  else match s, t with
    | .leaf _ is, .leaf _ js => is.flatMap fun i => js.map fun j => (i, j)
    | .leaf c is, .fork _ _ us => us.attach.flatMap fun u => across apart (.leaf c is) u.1
    | .fork _ _ ss, .leaf c js => ss.attach.flatMap fun u => across apart u.1 (.leaf c js)
    | .fork c is ss, .fork d js us =>
      if Scalar.le d.bounds.half c.bounds.half then
        ss.attach.flatMap fun u => across apart u.1 (.fork d js us)
      else us.attach.flatMap fun u => across apart (.fork c is ss) u.1
termination_by sizeOf s + sizeOf t
decreasing_by
  all_goals
    have := List.sizeOf_lt_of_mem u.2
    simp only [Quadtree.fork.sizeOf_spec]
    omega

mutual

def within (apart : Bounds α → Bounds α → Bool) : Quadtree α → List (Nat × Nat)
  | .leaf c is => if apart c.bounds c.bounds then [] else pairsOf is
  | .fork c _ ts => if apart c.bounds c.bounds then [] else withinAll apart ts

/-- The pairs below any of several cells: within the first, from it to the later ones, and so on. -/
def withinAll (apart : Bounds α → Bounds α → Bool) : List (Quadtree α) → List (Nat × Nat)
  | [] => []
  | t :: ts => within apart t ++ ts.flatMap (across apart t) ++ withinAll apart ts

end

/-! ### Influences -/

inductive Influence (α : Type) where
  | body (index : Nat)
  | cell (c : Cell α)

/-- A cell is far from a point outside it if it looks small from there. -/
def looksSmall (c : Cell α) (theta : α) (point : Vec α) : Bool :=
  let distance := Scalar.sqrt (Scalar.max (point - c.chargeCenter).lengthSq (Scalar.decimal 1 4))
  !c.bounds.contains point && Scalar.lt (c.bounds.side / distance) theta

mutual

def influences (theta : α) (index : Nat) (point : Vec α) : Quadtree α → List (Influence α)
  | .leaf c is =>
    if Scalar.le c.charge Scalar.zero then []
    else (is.filter (· ≠ index)).map .body
  | .fork c _ ts =>
    if Scalar.le c.charge Scalar.zero then []
    else if looksSmall c theta point then [.cell c]
    else influencesAll theta index point ts

def influencesAll (theta : α) (index : Nat) (point : Vec α) :
    List (Quadtree α) → List (Influence α)
  | [] => []
  | t :: ts => influences theta index point t ++ influencesAll theta index point ts

end

end Quadtree

end CodeAtlas.Layout
