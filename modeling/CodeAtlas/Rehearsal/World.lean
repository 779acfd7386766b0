import CodeAtlas.Rehearsal.Hub
import CodeAtlas.Session

/-!
The world around a session: a backend and scripted push connections, in virtual time. What arrives
waits in the inbox until it is taken, in the order in which it arrived. A call that is answered
without delay is answered after the step that started it.
-/
namespace CodeAtlas.Rehearsal

/-- A backend: how it answers a call, after how many milliseconds, and what it is afterwards. -/
structure Backend (σ : Type) where
  respond : σ → Call → σ × Nat × Completion

structure Answer where
  fits : Call → Bool
  delay : Nat
  finish : Call → Completion

/-- A backend that gives each call the oldest answer that fits it. -/
def scripted (missing : Call → Completion) : Backend (List Answer) where
  respond answers c :=
    match answers.find? (·.fits c) with
    | some a => (answers.eraseP (·.fits c), a.delay, a.finish c)
    | none => (answers, 0, missing c)

structure World (σ : Type) where
  backend : σ
  hub : Hub := {}
  inbox : List Message := []
  /-- Calls under way, and when they end. -/
  pending : List (Nat × Completion) := []
  /-- Calls that were started and not yet reported. -/
  calls : List Call := []

namespace World

variable {σ : Type}

def now (w : World σ) : Nat := w.hub.now

def collect (w : World σ) : World σ :=
  let (hub, told) := w.hub.take
  { w with hub, inbox := w.inbox ++ told.map .connection }

def carryOut (b : Backend σ) (w : World σ) : Errand → World σ
  | .call c =>
    let (backend, delay, completion) := b.respond w.backend c
    { w with backend, calls := w.calls ++ [c], pending := w.pending ++ [(w.now + delay, completion)] }
  | .openPush _ => { w with hub := w.hub.openLine }.collect
  | .closePush number => { w with hub := w.hub.cancel number }.collect

def deliver (w : World σ) : World σ :=
  let isDue (p : Nat × Completion) : Bool := p.1 ≤ w.now
  { w with
    inbox := w.inbox ++ (w.pending.filter isDue).map fun p => .completed p.2
    pending := w.pending.filter fun p => !isDue p }

def carryOutAll (b : Backend σ) (errands : List Errand) (w : World σ) : World σ :=
  (errands.foldl (carryOut b) w).deliver

def takeInbox (w : World σ) : World σ × List Message := ({ w with inbox := [] }, w.inbox)

/-! ### Time -/

def next? (w : World σ) : Option Nat :=
  let ends := w.pending.foldl (fun best p =>
    match best with
    | some first => some (min first p.1)
    | none => some p.1) none
  match ends, w.hub.next? with
  | some a, some (b, _) => some (min a b)
  | some a, none => some a
  | none, some (b, _) => some b
  | none, none => none

/-- What happens at a time: first timers of the push connections, then ends of calls. -/
def happen (time : Nat) (w : World σ) : World σ :=
  let hub := { w.hub with now := max w.now time }
  match hub.next? with
  | some (due, i) =>
    if due ≤ time then { w with hub := hub.fireLine i }.collect else { w with hub }.deliver
  | none => { w with hub }.deliver

/-- Moves the clock to a time, or until `stop` holds, with at most so many things on the way. -/
def advanceFrom (stop : World σ → Bool) : Nat → Nat → World σ → World σ
  | 0, target, w => { w with hub := { w.hub with now := target } }
  | fuel + 1, target, w =>
    if stop w then w
    else match w.next? with
      | some time =>
        if time ≤ target then advanceFrom stop fuel target (w.happen time)
        else { w with hub := { w.hub with now := target } }
      | none => { w with hub := { w.hub with now := target } }

def advanceUntil (stop : World σ → Bool) (ms : Nat) (w : World σ) : World σ :=
  advanceFrom stop (w.hub.maxTimers ms + w.pending.length + 1) (w.now + ms) w

def advance (ms : Nat) (w : World σ) : World σ := advanceUntil (fun _ => false) ms w

/-! ### The other side -/

def atPeer (number : Option Nat) (f : Nat → Hub → Hub × Bool) (w : World σ) :
    World σ × Option Bool :=
  let (hub, result) := w.hub.atPeer number f
  ({ w with hub }.collect, result)

/-! ### What can be seen -/

def reconnects (connection : Option Nat) (w : World σ) : Nat :=
  match connection.bind (w.hub.lines[·]?) with
  | some l => l.worker.reconnects.toNat
  | none => 0

def isConnected (connection : Option Nat) (w : World σ) : Bool :=
  (connection.bind (w.hub.lines[·]?)).any fun l => l.worker.state = .connected

def takeCalls (w : World σ) : World σ × List Call := ({ w with calls := [] }, w.calls)

end World

end CodeAtlas.Rehearsal
