import CodeAtlas.Viewer.Paint
import CodeAtlas.Viewer.Panel

/-!
The whole window: the panels, and the canvas in the space that they leave. Using a control takes
effect while the panels are drawn, before the canvas.
-/
namespace CodeAtlas

/-! ### Bounds of the tuning -/

/-- Into the range from `low` to `high`. What is no number goes to the end that its sign points
to. -/
def fitInto (low high x : Float32) : Float32 :=
  if x.isNaN then if x.toBits.toNat ≥ Nat.pow 2 31 then low else high else Scalar.clamp low high x

namespace Layout.Tuning

def fitted (t : Tuning Float32) : Tuning Float32 where
  intensity := fitInto 0.2 2.5 t.intensity
  repulsion := fitInto 0.25 2.6 t.repulsion
  spring := fitInto 0.2 2.2 t.spring
  collision := fitInto 0.2 2.0 t.collision
  damping := fitInto 0.5 0.97 t.damping

def same (a b : Tuning Float32) : Bool :=
  a.intensity == b.intensity && a.repulsion == b.repulsion && a.spring == b.spring &&
    a.collision == b.collision && a.damping == b.damping

end Layout.Tuning

/-! ### Controls -/

namespace Viewer

def toggleKind (kind : NodeKind) (c : Criteria) : Criteria :=
  { c with
    allowed := if c.allowed.contains kind then KindSet.erase kind c.allowed
      else KindSet.insert kind c.allowed }

def modifyCriteria (f : Criteria → Criteria) (v : Viewer) : Viewer :=
  v.amend fun s => s.setCriteria (f s.criteria)

def neighbourhood (v : Viewer) : SubgraphOptions :=
  { depth := some v.session.limits.pruneDepth, includeErrors := v.session.criteria.showErrors }

def use (c : Control) (now : Float) (v : Viewer) : Viewer :=
  match c with
  | .dismissError => v.amend Session.dismissError
  | .retry => v.act fun s => s.dismissError.retry
  | .refresh => v.act Session.refresh
  | .clear => v.act Session.clear
  | .loadStats => v.act Session.loadStats
  | .allow kind => v.modifyCriteria (toggleKind kind)
  | .showErrors => v.modifyCriteria fun c => { c with showErrors := !c.showErrors }
  | .showCalls => v.modifyCriteria fun c => { c with showCalls := !c.showCalls }
  | .visit id => v.selectAndCenter id now
  | .search => v.act (Session.search v.serverQuery)
  | .prune id => v.act (Session.prune id)
  | .subgraph id => v.act (Session.subgraph id v.neighbourhood)
  | .pathFrom id => { v with pathSource := id }
  | .pathTo id => { v with pathTarget := id }
  | .deselect => v.act (Session.select none)
  | .unfold _ => v
  | .findPaths => v.act (Session.findPaths (Text.trim v.pathSource) (Text.trim v.pathTarget))
  | .clearPaths => v.amend Session.clearPaths
  | .livePhysics => { v with livePhysics := !v.livePhysics }
  | .frameRate => { v with showFrameRate := !v.showFrameRate }
  | .reheat => { v with engine := v.engine.reheat 1.0 }
  | .resetView => { v with camera := v.camera.reset }
  | .exportLocal format => v.exportLocal format
  | .exportFromServer format => v.act (Session.exportFromServer format)

/-- The sliders are set to a tuning, which is brought into their bounds. Another tuning than before
warms the layout up. -/
def tune (wanted : Layout.Tuning Float32) (v : Viewer) : Viewer :=
  let tuning := wanted.fitted
  if tuning.same v.engine.tuning then v
  else { v with engine := (v.engine.setTuning tuning).reheat 0.3 }

end Viewer

/-! ### The window -/

structure Window where
  viewer : Viewer
  screen : Vec Float32
  /-- The parts that are unfolded. -/
  unfolded : List Fold := []
  /-- The tables that have appeared before. -/
  measured : List Table := []
  /-- What was drawn in the last frame, in its order. -/
  drawn : List Widget := []

namespace Window

def barHeight : Float32 := 32.0

def controlsWidth : Float32 := 316.0

def detailsWidth : Float32 := 356.0

def canvas (w : Window) : Rect Float32 :=
  ⟨⟨controlsWidth, barHeight⟩, ⟨w.screen.x - detailsWidth, w.screen.y⟩⟩

def shown (w : Window) : List Widget := w.drawn.filter fun d => d.item.text ≠ ""

def find? (w : Window) (text : String) (nth : Nat) : Option Widget :=
  (w.shown.filter fun d => d.item.text = text)[nth]?

def at? (w : Window) (spot : Spot) : Option Item :=
  (w.drawn.find? fun d => d.spot = some spot).map (·.item)

def panels (w : Window) (reconnects : Nat) : List (Panel × List Piece) :=
  w.viewer.panels reconnects w.unfolded

def widgets (w : Window) (reconnects : Nat) : List Widget :=
  (w.panels reconnects).flatMap fun p => p.1.widgets w.measured p.2

def toggleFold (fold : Fold) (w : Window) : Window :=
  { w with
    unfolded := if w.unfolded.contains fold then w.unfolded.filter (· ≠ fold)
      else fold :: w.unfolded }

def use (c : Control) (now : Float) (w : Window) : Window :=
  match c with
  | .unfold fold => w.toggleFold fold
  | c => { w with viewer := w.viewer.use c now }

/-- Lets go of the item at a spot, which uses its control if it can be used by then. -/
def release (spot : Spot) (reconnects : Nat) (now : Float) (w : Window) : Window :=
  match { w with drawn := w.widgets reconnects }.at? spot with
  | some { control := some c, disabled := false, .. } => w.use c now
  | _ => w

/-- Draws the panels. Nobody moves a slider, but the tuning is fitted while it can be seen. -/
def drawPanels (reconnects : Nat) (w : Window) : Window :=
  let w := if w.unfolded.contains .tuning then
      { w with viewer := w.viewer.tune w.viewer.engine.tuning }
    else w
  let tables := (w.panels reconnects).flatMap fun p => p.2.flatMap Piece.tables
  { w with
    drawn := w.widgets reconnects
    measured := w.measured ++ tables.filter fun t => !w.measured.contains t }

def drawCanvas (m : Moment) (inbox : List Message) (w : Window) : Window :=
  let viewer := w.viewer.frame w.canvas {} m inbox
  let words := (viewer.paint w.canvas).filterMap Shape.words?
  { w with viewer, drawn := w.drawn ++ words.map fun text => { item := Item.label text } }

def frame (released : Option Spot) (m : Moment) (reconnects : Nat) (inbox : List Message)
    (w : Window) : Window :=
  let w := { w with viewer := { w.viewer with meter := w.viewer.meter.tick m.lapse } }
  let w := match released with
    | some spot => w.release spot reconnects m.now
    | none => w
  (w.drawPanels reconnects).drawCanvas m inbox

end Window

end CodeAtlas
