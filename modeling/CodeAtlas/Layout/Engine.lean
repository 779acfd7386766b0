import CodeAtlas.Graph.Fingerprint
import CodeAtlas.Layout.Physics

/-!
The layout of a view: a simulation that is started anew when the shown structure or the viewport
changes, and cools down until it rests. Positions are published after each step.
-/
namespace CodeAtlas.Layout

variable {α : Type} [Scalar α]

structure Simulation (α : Type) where
  bodies : Array (Body α)
  springs : List Spring
  /-- The number of each body under its identity. -/
  index : Dict Nat
  center : Vec α
  /-- The energy left; forces scale with it. -/
  alpha : α
  /-- What the energy tends to. -/
  alphaTarget : α
  running : Bool

namespace Simulation

def indexOf? (s : Simulation α) (id : String) : Option Nat := s.index.find? id

def hasPin (s : Simulation α) : Bool := s.bodies.any Body.isPinned

def cooled (s : Simulation α) : α := s.alpha + (s.alphaTarget - s.alpha) * Scalar.decimal 228 4

def rests (s : Simulation α) : Bool :=
  Scalar.lt s.alpha (Scalar.decimal 1 3) && Scalar.le s.alphaTarget Scalar.zero

def modify (s : Simulation α) (id : String) (f : Body α → Body α) : Simulation α :=
  match s.indexOf? id with
  | some i => { s with bodies := s.bodies.modify i f }
  | none => s

end Simulation

/-- Positions as they were after a step, in the order of the bodies. -/
structure Frame (α : Type) where
  generation : UInt64
  tick : UInt64
  positions : Array (Vec α)

structure Engine (α : Type) where
  tuning : Tuning α
  simulation : Option (Simulation α)
  structureKey : Option UInt64
  viewport : Vec α
  /-- Counts the simulations that were started. -/
  generation : UInt64
  frame : Frame α

/-- Where a body starts: near an anchor, in a direction of its own. -/
def startPosition (id : String) (index : Nat) (anchor : Vec α) : Vec α :=
  let jitter : Vec α := scatter id
  let direction :=
    if Scalar.le jitter.lengthSq (Scalar.decimal 1 4) then
      Vec.atAngle ((Scalar.ofNat index * Scalar.decimal 618034 6 + Scalar.decimal 11 2) * tau)
    else jitter
  anchor + direction.scale (Scalar.ofNat 60)

def numbered (nodes : List Node) : Dict Nat := .ofList (nodes.mapIdx fun i n => (n.id, i))

def springsOf (index : Dict Nat) (links : List Link) : List Spring :=
  links.filterMap fun l => do
    let source ← index.find? l.source.id
    let target ← index.find? l.target.id
    if source = target then none else some ⟨source, target, l.kind⟩

/-- The first node already placed that a spring joins to node `index`. -/
def anchorOf (springs : List Spring) (placed : Array (Option (Body α))) (index : Nat) :
    Option (Body α) :=
  springs.findSome? fun s =>
    match if s.source = index then placed.getD s.target none else none with
    | some body => some body
    | none => if s.target = index then placed.getD s.source none else none

/-- A new simulation of a view. Nodes that were there before keep their place and their pin; others
start near a neighbour that was, or near the center. It starts cooler if at least half of the nodes
were there. -/
def Simulation.start (v : View) (center : Vec α) (before : Array (Body α)) : Simulation α :=
  let index := numbered v.nodes
  let springs := springsOf index v.links
  let placed : Array (Option (Body α)) :=
    (v.nodes.map fun n => before.find? (·.id = n.id)).toArray
  let carried := (placed.filter Option.isSome).size
  let bodies := v.nodes.mapIdx fun i n =>
    match placed.getD i none with
    | some b => { b with id := n.id, kind := n.kind, velocity := Vec.zero }
    | none =>
      let anchor := ((anchorOf springs placed i).map (·.position)).getD center
      ⟨n.id, n.kind, startPosition n.id i anchor, Vec.zero, none⟩
  { bodies := bodies.toArray
    springs
    index
    center
    alpha := if carried * 2 ≥ bodies.length && carried > 0 then Scalar.decimal 5 1 else Scalar.one
    alphaTarget := Scalar.zero
    running := true }

namespace Engine

def new (tuning : Tuning α) : Engine α :=
  { tuning, simulation := none, structureKey := none, viewport := Vec.zero, generation := 0
    frame := ⟨0, 0, #[]⟩ }

def setTuning (tuning : Tuning α) (e : Engine α) : Engine α := { e with tuning }

def bodies (e : Engine α) : Array (Body α) :=
  match e.simulation with
  | some s => s.bodies
  | none => #[]

def springs (e : Engine α) : List Spring :=
  match e.simulation with
  | some s => s.springs
  | none => []

def isRunning (e : Engine α) : Bool := e.simulation.any (·.running)

def alpha (e : Engine α) : α :=
  match e.simulation with
  | some s => s.alpha
  | none => Scalar.zero

def publish (e : Engine α) (tick : UInt64) : Engine α :=
  { e with frame := ⟨e.generation, tick, e.bodies.map (·.position)⟩ }

def isFor (e : Engine α) (v : View) (viewport : Vec α) : Bool :=
  e.structureKey == some v.fingerprint && e.viewport.same viewport && e.simulation.isSome

/-- Starts a simulation if the view or the viewport changed, and tells whether it did. -/
def sync (e : Engine α) (v : View) (viewport : Vec α) : Engine α × Bool :=
  if e.isFor v viewport then (e, false)
  else
    let center := viewport.scale (Scalar.decimal 5 1)
    let next := { e with
      structureKey := some v.fingerprint
      viewport
      generation := e.generation + 1
      simulation := some (Simulation.start v center e.bodies) }
    (next.publish 0, true)

def stop (e : Engine α) : Engine α :=
  { e with simulation := e.simulation.map fun s => { s with running := false } }

def reheat (e : Engine α) (alpha : α) : Engine α :=
  { e with simulation := e.simulation.map fun s =>
      { s with alpha := Scalar.max s.alpha alpha, running := true } }

def indexOf? (e : Engine α) (id : String) : Option Nat := e.simulation.bind (·.indexOf? id)

def position? (e : Engine α) (id : String) : Option (Vec α) :=
  (e.indexOf? id).bind (e.frame.positions[·]?)

def nearest : List (Nat × α) → Option (Nat × α)
  | [] => none
  | x :: xs =>
    match nearest xs with
    | some y => if Scalar.lt y.2 x.2 then some y else some x
    | none => some x

/-- The body whose circle, widened by `slack`, holds a point; the one with the nearest center if
there are several. -/
def bodyAt (e : Engine α) (world : Vec α) (slack : α) : Option Nat :=
  let hits := (e.bodies.toList.zip e.frame.positions.toList).zipIdx.filterMap fun ((b, p), i) =>
    let distance := (p - world).length
    if Scalar.le distance (b.radius + slack) then some (i, distance) else none
  (nearest hits).map (·.1)

def dragAlpha : α := Scalar.decimal 3 1

/-- Pins a body to a point and keeps the energy up; false if there is no such body. -/
def beginDrag (e : Engine α) (id : String) (world : Vec α) : Engine α × Bool :=
  match e.simulation with
  | some s =>
    if (s.indexOf? id).isSome then
      let s := s.modify id fun b =>
        { b with pin := some world, position := world, velocity := Vec.zero }
      let s := { s with alphaTarget := dragAlpha, running := true }
      ({ e with simulation := some s }.publish e.frame.tick, true)
    else (e, false)
  | none => (e, false)

def dragTo (e : Engine α) (id : String) (world : Vec α) : Engine α :=
  { e with simulation := e.simulation.map fun s =>
      s.modify id fun b =>
        if b.isPinned then { b with pin := some world, position := world } else b }

/-- Releases a body; with no pin left the energy runs out again. -/
def endDrag (e : Engine α) (id : String) : Engine α :=
  { e with simulation := e.simulation.map fun s =>
      let s := s.modify id fun b => { b with pin := none }
      if s.hasPin then s else { s with alphaTarget := Scalar.zero } }

def step (e : Engine α) (seconds : α) : Engine α × Bool :=
  match e.simulation with
  | some s =>
    if s.running then
      let s := { s with alpha := s.cooled }
      if s.rests then ({ e with simulation := some { s with running := false } }, false)
      else
        let (bodies, moved) := advance e.tuning s.springs s.center s.alpha seconds s.bodies
        ({ e with simulation := some { s with bodies } }.publish (e.frame.tick + 1), moved)
    else (e, false)
  | none => (e, false)

def steps (seconds : α) : Nat → Engine α → Engine α × Nat
  | 0, e => (e, 0)
  | count + 1, e =>
    let (e, moved) := e.step seconds
    let (e, more) := steps seconds count e
    (e, if moved then more + 1 else more)

end Engine

end CodeAtlas.Layout
