import CodeAtlas.Geometry.Rect
import CodeAtlas.Viewer.State

/-!
The canvas in one frame: what the pointer does there moves nodes, the camera and the selection, and
the layout takes a step.
-/
namespace CodeAtlas

inductive MouseButton where
  | primary
  | secondary
  | middle
  deriving DecidableEq, Repr

structure Gesture where
  /-- Where it rests, if it is over the canvas. -/
  hover : Option (Vec Float32) := none
  /-- Where it acts. -/
  pointer : Option (Vec Float32) := none
  clicked : Bool := false
  doubleClicked : Bool := false
  /-- A drag with the primary button begins. -/
  dragStarted : Bool := false
  dragStopped : Bool := false
  /-- The button of a drag, and how far it went since the last frame. -/
  drag : Option (MouseButton × Vec Float32) := none
  scroll : Float32 := 0.0

structure Moment where
  now : Float
  lapse : Float32

namespace Viewer

def hitSlack : Float32 := 3.0

def bodyUnder? (v : Viewer) (area : Rect Float32) (screen : Vec Float32) : Option Nat :=
  let t := v.camera.transform
  v.engine.bodyAt (t.toWorld area.min screen) (hitSlack / t.zoom)

def nodeUnder? (v : Viewer) (area : Rect Float32) (screen : Vec Float32) : Option String :=
  (v.bodyUnder? area screen).bind fun i => (v.engine.bodies[i]?).map (·.id)

/-! ### Dragging a node -/

def seize (area : Rect Float32) (g : Gesture) (v : Viewer) : Viewer :=
  if !g.dragStarted then v
  else match g.pointer with
    | none => v
    | some p =>
      match v.nodeUnder? area p with
      | none => v
      | some id =>
        let (engine, held) := v.engine.beginDrag id (v.camera.transform.toWorld area.min p)
        if held then { v with engine, dragging := some id } else v

def carry (area : Rect Float32) (g : Gesture) (v : Viewer) : Viewer :=
  match v.dragging with
  | none => v
  | some id =>
    if g.dragStopped then { v with engine := v.engine.endDrag id, dragging := none }
    else match g.pointer with
      | none => v
      | some p => { v with engine := v.engine.dragTo id (v.camera.transform.toWorld area.min p) }

def dragNode (area : Rect Float32) (g : Gesture) (v : Viewer) : Viewer :=
  (v.seize area g).carry area g

/-! ### Moving the camera -/

def zoomFactor (scroll : Float32) : Float32 := Scalar.clamp 0.85 1.15 (1.0 + scroll * 0.0018)

def zoom (area : Rect Float32) (g : Gesture) (v : Viewer) : Viewer :=
  match g.hover with
  | none => v
  | some p =>
    if Scalar.abs g.scroll ≤ FrameMeter.epsilon then v
    else { v with camera := v.camera.zoomAbout area.min p (zoomFactor g.scroll) }

/-- A drag that holds no node moves the camera; the primary button holds the node that is
dragged. -/
def pan (g : Gesture) (v : Viewer) : Viewer :=
  match g.drag with
  | none => v
  | some (button, delta) =>
    if button = .primary && v.dragging.isSome then v
    else { v with camera := v.camera.panBy delta }

def shortestStep : Float32 := 1.0 / 240.0

def longestStep : Float32 := 1.0 / 20.0

/-- Time passes for the camera, and for the layout if it lives or a node is dragged. -/
def pass (m : Moment) (v : Viewer) : Viewer :=
  let v := { v with camera := v.camera.tick m.now }
  if v.livePhysics || v.dragging.isSome then
    { v with engine := (v.engine.step (Scalar.clamp shortestStep longestStep m.lapse)).1 }
  else v

/-! ### Pointing at nodes -/

def hoverNode (id : Option String) (v : Viewer) : Viewer :=
  if v.session.selection.hovered = id then v
  else (v.amend (Session.hover id)).refreshHighlight false

/-- A click selects the node under the pointer, or none; a double click brings it to the middle. -/
def point (area : Rect Float32) (g : Gesture) (now : Float) (v : Viewer) : Viewer :=
  let id := g.hover.bind (v.nodeUnder? area)
  let v := v.hoverNode id
  if g.doubleClicked then
    match id with
    | some id => v.selectAndCenter id now
    | none => v
  else if g.clicked then (v.act (Session.select id)).refreshHighlight false
  else v

/-- One frame of the canvas. With no node laid out there is nothing to point at. -/
def frame (area : Rect Float32) (g : Gesture) (m : Moment) (inbox : List Message) (v : Viewer) :
    Viewer :=
  let v := v.sync inbox area.size
  let v := (((v.dragNode area g).zoom area g).pan g).pass m
  if v.engine.bodies.isEmpty then v else v.point area g m.now

end Viewer

end CodeAtlas
