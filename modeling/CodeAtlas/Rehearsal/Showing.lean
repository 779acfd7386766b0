import CodeAtlas.Push.Address
import CodeAtlas.Rehearsal.World
import CodeAtlas.Viewer.Window

/-!
The viewer in its world. Frames have a clock of their own, which counts 64 ticks a second. What a
frame asks for is answered after it, and taken by the next one.
-/
namespace CodeAtlas.Rehearsal

/-! ### The backend behind its routes -/

structure RouteReply where
  route : String
  /-- How long it takes, in milliseconds. -/
  delay : Nat := 0
  /-- None if the connection breaks instead. -/
  reply : Option Reply := none
  deriving DecidableEq, Repr

structure Server where
  base : String
  /-- How long a request may take, in milliseconds. -/
  timeout : Nat
  replies : List RouteReply := []

namespace Server

def ofSettings (s : Settings) (replies : List RouteReply) : Server :=
  ⟨Settings.trimSlashes s.backendUrl, s.requestTimeout, replies⟩

def unanswered (url : Net.Url) : Failure :=
  .transport s!"error sending request for url ({url.text})"

/-- The reply to a request, and how long it takes. A reply that takes too long is none. -/
def settle (s : Server) (url : Net.Url) (r : RouteReply) : Nat × Except Failure Reply :=
  if r.delay ≥ s.timeout then (s.timeout, .error (unanswered url))
  else match r.reply with
    | some reply => (r.delay, .ok reply)
    | none => (r.delay, .error (unanswered url))

def respond (s : Server) (c : Call) : Server × Nat × Completion :=
  match c.request.address s.base with
  | .error why => (s, 0, c.complete (.error (.transport why.message)))
  | .ok url =>
    let fits (r : RouteReply) : Bool := r.route = c.request.method ++ " " ++ url.target
    match s.replies.find? fits with
    | none => (s, 0, c.complete (.error (unanswered url)))
    | some r =>
      let (delay, reply) := s.settle url r
      ({ s with replies := s.replies.eraseP fits }, delay, c.complete reply)

end Server

def routed : Backend Server := ⟨Server.respond⟩

/-! ### The showing -/

structure Showing where
  world : World Server
  window : Window
  /-- Where the push channel is, if that can be tried. -/
  pushAddress : Option Push.Address
  ticks : Nat := 0

namespace Showing

def settle (s : Showing) : Showing :=
  let (viewer, errands) := s.window.viewer.takeOutbox
  { s with world := s.world.carryOutAll routed errands, window := { s.window with viewer } }

def opened (settings : Settings) (disk : Disk) (screen : Vec Float32) (attempts : List Attempt)
    (replies : List RouteReply) : Showing :=
  let pushAddress := (Push.Address.usable settings.pushUrl).toOption
  let hub : Hub := { timing := settings.pushTiming, attempts, usable := pushAddress.isSome }
  settle
    { world := { backend := .ofSettings settings replies, hub }
      window := { viewer := .opened settings disk, screen }
      pushAddress }

def seconds (s : Showing) : Float := Float.ofNat s.ticks / 64.0

def perform (f : Viewer → Viewer) (s : Showing) : Showing :=
  { s with window := { s.window with viewer := f s.window.viewer } }.settle

def inWorld (f : World Server → World Server) (s : Showing) : Showing :=
  { s with world := f s.world }

def reconnects (s : Showing) : Nat := s.world.reconnects s.window.viewer.session.connection

def frame (ticks : Nat) (draw : Moment → List Message → Window → Window) (s : Showing) : Showing :=
  let s := { s with ticks := s.ticks + ticks }
  let (world, inbox) := s.world.takeInbox
  let moment : Moment := ⟨s.seconds, (Float.ofNat ticks / 64.0).toFloat32⟩
  { s with world, window := draw moment inbox s.window }.settle

def canvasFrame (ticks : Nat) (g : Gesture) (s : Showing) : Showing :=
  s.frame ticks fun m inbox w =>
    { w with viewer := w.viewer.frame ⟨Vec.zero, w.screen⟩ g m inbox }

def windowFrame (ticks : Nat) (released : Option Spot) (s : Showing) : Showing :=
  s.frame ticks fun m inbox w => w.frame released m s.reconnects inbox

def idle : Nat → Showing → Showing
  | 0, s => s
  | count + 1, s => idle count (s.windowFrame 1 none)

/-- Presses an item of the last frame, lets go of it in the frame after, and draws a few frames more;
tells whether the item was there. What is pressed is what the last frame has shown: an item that
was disabled there is not taken hold of, and one that is gone in the frame of the press is lost. -/
def click (text : String) (nth : Nat) (s : Showing) : Showing × Bool :=
  match s.window.find? text nth with
  | none => (s, false)
  | some pressed =>
    let held := if pressed.item.disabled then none else pressed.spot
    let s := idle 1 s
    let held := held.filter fun spot => (s.window.at? spot).isSome
    (idle 5 (s.windowFrame 1 held), true)

def connects (s : Showing) : List String :=
  s.world.hub.connects.filterMap fun _ => s.pushAddress.map (·.text)

def takeRequests (s : Showing) : Showing × List (String × String × Option Json) :=
  let (world, calls) := s.world.takeCalls
  ({ s with world }, calls.filterMap fun c =>
    (c.request.address s.world.backend.base).toOption.map fun url =>
      (c.request.method, url.target, c.request.body))

end Showing

end CodeAtlas.Rehearsal
