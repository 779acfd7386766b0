import CodeAtlas.Geometry.Remainder
import CodeAtlas.Viewer.Canvas

/-!
What the canvas shows after a frame, as a list of shapes in the order in which they are painted:
the grid, the links, the nodes with their labels, and a caption for the node under the pointer.
-/
namespace CodeAtlas

inductive Shape where
  | rect (min max : Vec Float32) (fill : Color)
  | line (start stop : Vec Float32) (width : Float32) (color : Color)
  | disc (center : Vec Float32) (radius : Float32) (fill : Color)
  | ring (center : Vec Float32) (radius : Float32) (width : Float32) (color : Color)
  | text (words : String) (color : Color)

namespace Shape

def words? : Shape → Option String
  | .text words _ => some words
  | _ => none

end Shape

namespace Viewer

/-! ### The grid -/

def stepsFrom : Nat → Float32 → Float32 → Float32 → List Float32
  | 0, _, _, _ => []
  | count + 1, step, stop, x =>
    if x < stop then x :: stepsFrom count step stop (x + step) else []

def gridSteps (step anchor start stop : Float32) : List Float32 :=
  let count := ((stop - start) / step).toUInt32.toNat + 2
  stepsFrom count step stop (start + positiveRemainder32 (anchor - start) step)

def gridStep (zoom : Float32) : Float32 := Scalar.max (56.0 * Scalar.clamp 0.6 1.8 zoom) 20.0

def background (area : Rect Float32) (t : Transform Float32) : List Shape :=
  let step := gridStep t.zoom
  let anchor := area.min + t.pan
  [.rect area.min area.max .background] ++
  (gridSteps step anchor.x area.min.x area.max.x).map (fun x =>
    .line ⟨x, area.min.y⟩ ⟨x, area.max.y⟩ 1.0 .gridLine) ++
  (gridSteps step anchor.y area.min.y area.max.y).map fun y =>
    .line ⟨area.min.x, y⟩ ⟨area.max.x, y⟩ 1.0 .gridLine

/-! ### The graph -/

def place (v : Viewer) (area : Rect Float32) (i : Nat) : Vec Float32 :=
  v.camera.transform.toScreen area.min (v.engine.frame.positions.getD i Vec.zero)

def idOf (v : Viewer) (i : Nat) : String := ((v.engine.bodies[i]?).map (·.id)).getD ""

def linkMargin : Float32 := 4.0

def linkColor (v : Viewer) (kind : LinkKind) (e : LinkEmphasis) : Color :=
  if e.highlighted && v.highlight.path.length > 1 then kind.color.blend .path 0.5 else kind.color

def linkShapes (v : Viewer) (area : Rect Float32) (s : Layout.Spring) : List Shape :=
  let start := v.place area s.source
  let stop := v.place area s.target
  if !area.meetsSegment start stop linkMargin then []
  else
    let e := v.highlight.emphasisBetween (v.idOf s.source) (v.idOf s.target) s.kind
    let width := Scalar.clamp 0.5 6.0 (e.width * Scalar.sqrt v.camera.transform.zoom)
    [.line start stop width ((v.linkColor s.kind e).withOpacity e.opacity)]

def isSelected (v : Viewer) (id : String) : Bool := v.selected = some id

def isHovered (v : Viewer) (id : String) : Bool := v.session.selection.hovered = some id

def nodeColor (v : Viewer) (b : Layout.Body Float32) (e : NodeEmphasis) : Color :=
  if v.isSelected b.id then .selected
  else if v.isHovered b.id then .hovered
  else if e.onPath then b.kind.color.blend .path 0.6
  else b.kind.color

def labelZoom : Float32 := 1.2

def showsLabel (v : Viewer) (id : String) (e : NodeEmphasis) : Bool :=
  v.isSelected id || v.isHovered id || e.focused || (v.highlight.isActive && !e.isDimmed) ||
    v.camera.transform.zoom > labelZoom

def labelLimit : Nat := 28

def labelShapes (v : Viewer) (id : String) (e : NodeEmphasis) : List Shape :=
  match v.snapshot.node? id with
  | some n =>
    if v.showsLabel id e then
      [.text (Text.shorten labelLimit n.label) (Color.label.withOpacity e.opacity)]
    else []
  | none => []

def nodeShapes (v : Viewer) (area : Rect Float32) (b : Layout.Body Float32) (i : Nat) : List Shape :=
  let center := v.place area i
  let radius := Scalar.clamp 2.0 48.0 (b.radius * v.camera.transform.zoom)
  if !area.meetsCircle center radius then []
  else
    let e := v.highlight.nodeEmphasis b.id
    let outline := Color.nodeOutline.withOpacity e.opacity
    [.disc center radius ((v.nodeColor b e).withOpacity e.opacity),
      .ring center radius (if b.isPinned then 2.2 else 1.0) outline] ++
    (if v.isSelected b.id then
      [.ring center (radius + 4.0) 1.4 (Color.selected.withOpacity 0.6)]
    else []) ++
    v.labelShapes b.id e

def captionOf (n : Node) : String :=
  n.label ++ "  |  " ++ n.kind.tag ++
    match n.path? with
    | some path => "  |  " ++ path
    | none => ""

def isPointing (v : Viewer) : Bool :=
  !v.engine.bodies.isEmpty && v.session.selection.hovered.isSome

def caption (v : Viewer) : List Shape :=
  match v.session.selection.hovered.bind v.snapshot.node? with
  | some n => [.text (captionOf n) .caption]
  | none => []

def emptyWords (v : Viewer) : String :=
  if v.session.store.loading then "Loading graph..."
  else if v.snapshot.isEmpty then "The graph is empty. Run an analysis or press Refresh."
  else "No nodes match the current filters."

def paint (area : Rect Float32) (v : Viewer) : List Shape :=
  background area v.camera.transform ++
  if v.engine.bodies.isEmpty then [.text v.emptyWords .label]
  else
    v.engine.springs.flatMap (v.linkShapes area) ++
    v.engine.bodies.toList.zipIdx.flatMap (fun (b, i) => v.nodeShapes area b i) ++
    v.caption

end Viewer

end CodeAtlas
