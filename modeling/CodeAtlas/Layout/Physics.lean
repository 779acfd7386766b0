import CodeAtlas.Graph.Kind
import CodeAtlas.Layout.Forces

/-!
One step of the physics. Bodies repel each other, overlapping circles are parted, links pull like
damped springs, and everything is drawn to the center. A pinned body stays at its pin.
-/
namespace CodeAtlas.Layout

variable {α : Type} [Scalar α]

/-- How strong the forces are. Every value is brought into its range before it is used. -/
structure Tuning (α : Type) where
  intensity : α
  repulsion : α
  spring : α
  collision : α
  damping : α
  deriving DecidableEq, Repr

namespace Tuning

def standard : Tuning α := ⟨Scalar.one, Scalar.one, Scalar.one, Scalar.one, Scalar.decimal 85 2⟩

def fields (t : Tuning α) : List (String × α) :=
  [("intensity", t.intensity), ("repulsion", t.repulsion), ("spring", t.spring),
    ("collision", t.collision), ("velocity_damping", t.damping)]

def ofFields (find : String → Option α) : Tuning α where
  intensity := (find "intensity").getD standard.intensity
  repulsion := (find "repulsion").getD standard.repulsion
  spring := (find "spring").getD standard.spring
  collision := (find "collision").getD standard.collision
  damping := (find "velocity_damping").getD standard.damping

def heat (t : Tuning α) : α := Scalar.clamp (Scalar.decimal 2 1) (Scalar.decimal 25 1) t.intensity

def repulsionForce (t : Tuning α) : Repulsion α where
  strength := Scalar.ofNat 9000 * t.heat *
    Scalar.clamp (Scalar.decimal 25 2) (Scalar.decimal 26 1) t.repulsion
  softening := Scalar.ofNat 400
  theta := Scalar.decimal 72 2

def springStrength (t : Tuning α) : α :=
  Scalar.decimal 6 2 * t.heat * Scalar.clamp (Scalar.decimal 2 1) (Scalar.decimal 22 1) t.spring

def collisionForce (t : Tuning α) (maxRadius : α) : Collision α :=
  let padding : α := Scalar.ofNat 4
  let reach := maxRadius * Scalar.ofNat 2 + padding
  { strength := Scalar.decimal 7 1 * t.heat *
      Scalar.clamp (Scalar.decimal 2 1) (Scalar.ofNat 2) t.collision
    padding
    reachSq := reach * reach }

def centerPull (t : Tuning α) : α := Scalar.decimal 12 3 * t.heat

def maxForce (t : Tuning α) : α := Scalar.ofNat 165 + t.heat * Scalar.ofNat 90

def maxSpeed (t : Tuning α) : α := Scalar.ofNat 11 + t.heat * Scalar.ofNat 15

def dampingOver (t : Tuning α) (time : α) : α :=
  Scalar.pow (Scalar.clamp (Scalar.decimal 5 1) (Scalar.decimal 97 2) t.damping) time

end Tuning

/-- A frame's length in sixtieths of a second, within bounds. -/
def stretch (seconds : α) : α :=
  Scalar.clamp (Scalar.decimal 25 2) (Scalar.ofNat 3) (seconds * Scalar.ofNat 60)

structure Body (α : Type) where
  id : String
  kind : NodeKind
  position : Vec α
  velocity : Vec α
  pin : Option (Vec α)

namespace Body

def radius (b : Body α) : α := b.kind.radius

def weight (b : Body α) : α := b.kind.weight

def isPinned (b : Body α) : Bool := b.pin.isSome

end Body

structure Spring where
  source : Nat
  target : Nat
  kind : LinkKind
  deriving DecidableEq, Repr

def limitLength (limit : α) (v : Vec α) : Vec α :=
  let length := v.length
  if Scalar.lt limit length then v.scale (limit / length) else v

structure Field (α : Type) where
  bodies : Bodies α
  radii : Array α
  velocities : Array (Vec α)
  tree : Option (Quadtree α)

namespace Field

def ofBodies (bodies : Array (Body α)) : Field α :=
  let placed : Bodies α := ⟨bodies.map (·.position), bodies.map (·.weight)⟩
  ⟨placed, bodies.map (·.radius), bodies.map (·.velocity), Quadtree.build placed⟩

def size (f : Field α) : Nat := f.bodies.positions.size

def maxRadius (f : Field α) : α := f.radii.foldl Scalar.max Scalar.zero

def radius (f : Field α) (i : Nat) : α := f.radii.getD i Scalar.zero

def velocity (f : Field α) (i : Nat) : Vec α := f.velocities.getD i Vec.zero

/-- The repulsion each body feels; one body alone feels none. -/
def repulsion (f : Field α) (t : Tuning α) : Array (Vec α) :=
  match f.tree with
  | some tree =>
    if f.size > 1 then
      let r := t.repulsionForce
      (Array.range f.size).map (r.on f.bodies tree)
    else Array.replicate f.size Vec.zero
  | none => Array.replicate f.size Vec.zero

def collide (f : Field α) (t : Tuning α) (forces : Array (Vec α)) : Array (Vec α) :=
  match f.tree with
  | some tree => (t.collisionForce f.maxRadius).partAll f.bodies f.radii tree forces
  | none => forces

/-- Adds the pull of a spring. The lighter end gives way more. A spring whose ends are at one place
does not pull. -/
def pull (f : Field α) (strength : α) (forces : Array (Vec α)) (s : Spring) : Array (Vec α) :=
  let delta := f.bodies.position s.target - f.bodies.position s.source
  let distance := delta.length
  if Scalar.le distance (Scalar.decimal 1 4) then forces
  else
    let direction := delta.shrink distance
    let rest := s.kind.restLength + f.radius s.source + f.radius s.target
    let approach := f.velocity s.target - f.velocity s.source
    let correction := direction.scale
      ((distance - rest) * strength + approach.dot direction * Scalar.decimal 22 2)
    let weight := f.bodies.weight s.target
    let share := weight / (f.bodies.weight s.source + weight)
    let two : α := Scalar.ofNat 2
    let forces := forces.modify s.source (· + correction.scale (two * share))
    forces.modify s.target (· - correction.scale (two * (Scalar.one - share)))

def attract (f : Field α) (center : Vec α) (strength : α) (i : Nat) (force : Vec α) : Vec α :=
  force + (center - f.bodies.position i).scale strength

def forces (f : Field α) (t : Tuning α) (springs : List Spring) (center : Vec α) :
    Array (Vec α) :=
  let strength := t.springStrength
  let pulled := springs.foldl (f.pull strength) (f.collide t (f.repulsion t))
  let strength := t.centerPull
  pulled.mapIdx (f.attract center strength)

end Field

structure Motion (α : Type) where
  alpha : α
  time : α
  maxForce : α
  maxSpeed : α
  damping : α

namespace Motion

def ofTuning (t : Tuning α) (alpha seconds : α) : Motion α :=
  let time := stretch seconds
  ⟨alpha, time, t.maxForce, t.maxSpeed, t.dampingOver time⟩

def velocity (m : Motion α) (before force : Vec α) : Vec α :=
  let force := limitLength m.maxForce (force.scale m.alpha)
  limitLength m.maxSpeed ((before + force.scale (Scalar.decimal 55 2 * m.time)).scale m.damping)

def move (m : Motion α) (b : Body α) (force : Vec α) : Body α :=
  match b.pin with
  | some pin => { b with position := pin, velocity := Vec.zero }
  | none =>
    let velocity := m.velocity b.velocity force
    { b with velocity, position := b.position + velocity.scale m.time }

end Motion

def Body.isMoving (b : Body α) : Bool :=
  !b.isPinned && Scalar.lt (Scalar.decimal 1 6) b.velocity.lengthSq

/-- Takes the common drift from free bodies and brings their middle closer to the center. Nothing
is done while a body is pinned, or for one body alone. -/
def settle (center : Vec α) (bodies : Array (Body α)) : Array (Body α) :=
  if bodies.size > 1 && !bodies.any Body.isPinned then
    let count : α := Scalar.ofNat bodies.size
    let drift := (bodies.foldl (fun v b => v + b.velocity) Vec.zero).shrink count
    let middle := (bodies.foldl (fun v b => v + b.position) Vec.zero).shrink count
    let shift := (center - middle).scale (Scalar.decimal 1 1)
    bodies.map fun b => { b with velocity := b.velocity - drift, position := b.position + shift }
  else bodies

def advance (t : Tuning α) (springs : List Spring) (center : Vec α) (alpha seconds : α)
    (bodies : Array (Body α)) : Array (Body α) × Bool :=
  let forces := (Field.ofBodies bodies).forces t springs center
  let motion := Motion.ofTuning t alpha seconds
  let moved := bodies.mapIdx fun i b => motion.move b (forces.getD i Vec.zero)
  (settle center moved, moved.any Body.isMoving)

end CodeAtlas.Layout
