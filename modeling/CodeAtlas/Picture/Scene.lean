import CodeAtlas.Camera
import CodeAtlas.Graph.Highlight
import CodeAtlas.Layout.Engine

/-!
The graph as it stands on the screen at one moment.
-/
namespace CodeAtlas

structure Dot where
  id : String
  label : String
  kind : NodeKind
  center : Vec Float32
  radius : Float32
  emphasis : NodeEmphasis
  selected : Bool

structure Stroke where
  start : Vec Float32
  stop : Vec Float32
  kind : LinkKind
  emphasis : LinkEmphasis

structure Scene where
  width : Nat
  height : Nat
  dots : List Dot
  strokes : List Stroke

namespace Scene

/-- A side of a picture in whole pixels, at least one; halves go up. -/
def pixels (x : Float32) : Nat := (Scalar.max x 1.0).round.toUInt32.toNat

def labelLimit : Nat := 32

def labelOf (g : Snapshot) (id : String) : String :=
  match g.node? id with
  | some n => n.label
  | none => id

def capture (engine : Layout.Engine Float32) (g : Snapshot) (h : Highlight)
    (selected : Option String) (transform : Transform Float32) (viewport : Vec Float32) : Scene :=
  let place (i : Nat) := transform.toScreen Vec.zero (engine.frame.positions.getD i Vec.zero)
  let idOf (i : Nat) := (engine.bodies[i]?.map (·.id)).getD ""
  { width := pixels viewport.x
    height := pixels viewport.y
    dots := engine.bodies.toList.mapIdx fun i b =>
      { id := b.id
        label := Text.shorten labelLimit (labelOf g b.id)
        kind := b.kind
        center := place i
        radius := b.radius * transform.zoom
        emphasis := h.nodeEmphasis b.id
        selected := selected = some b.id }
    strokes := engine.springs.map fun s =>
      { start := place s.source
        stop := place s.target
        kind := s.kind
        emphasis := h.emphasisBetween (idOf s.source) (idOf s.target) s.kind } }

end Scene

end CodeAtlas
