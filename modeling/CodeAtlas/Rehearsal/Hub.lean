import CodeAtlas.Push.Worker
import CodeAtlas.Settings

/-!
Push connections rehearsed against a script, in virtual time. The script says what becomes of each
attempt to connect; the clock moves only when it is told to. Whatever can happen without moving the
clock happens at once.
-/
namespace CodeAtlas.Rehearsal

open Push (Worker Wake Act Heard)

structure Attempt where
  refuse : Bool := false
  /-- How long it takes, in milliseconds. -/
  delay : Nat := 0
  /-- How many texts can be sent before the connection breaks; none for as many as wanted. -/
  sends : Option Nat := none
  deriving DecidableEq, Repr

structure Peer where
  /-- The number of the worker that holds it. -/
  line : Nat
  sent : List String := []
  sendsLeft : Option Nat := none
  /-- The worker still holds it. -/
  held : Bool := true
  /-- The worker closed it. -/
  closed : Bool := false
  /-- The other side closed it. -/
  gone : Bool := false

inductive Timer where
  | none
  | attempt (due : Nat) (a : Attempt)
  | ping (due : Nat)
  | rest (due : Nat)

def Timer.due? : Timer → Option Nat
  | .none => Option.none
  | .attempt due _ | .ping due | .rest due => some due

structure Line where
  worker : Worker
  cancelled : Bool := false
  timer : Timer := .none
  peer : Option Nat := none

structure Hub where
  timing : PushTiming := {}
  /-- Whether the address can be tried at all; if not, every attempt fails before it begins. -/
  usable : Bool := true
  attempts : List Attempt := []
  now : Nat := 0
  /-- When each attempt to connect began. -/
  connects : List Nat := []
  lines : Array Line := #[]
  peers : Array Peer := #[]
  /-- Events that were told and not yet taken. -/
  told : List ConnectionEvent := []

namespace Hub

def modifyLine (i : Nat) (f : Line → Line) (h : Hub) : Hub := { h with lines := h.lines.modify i f }

def modifyPeer (i : Nat) (f : Peer → Peer) (h : Hub) : Hub := { h with peers := h.peers.modify i f }

def reading (h : Hub) : Nat := h.now * 1000000

def peerOf? (i : Nat) (h : Hub) : Option Nat := (h.lines[i]?).bind (·.peer)

def settleAttempt (i : Nat) (a : Attempt) (h : Hub) : Hub × Wake :=
  if a.refuse then (h, .refused)
  else
    let number := h.peers.size
    let h := h.modifyLine i fun l => { l with peer := some number }
    ({ h with peers := h.peers.push { line := i, sendsLeft := a.sends } }, .opened)

def send (i : Nat) (text : String) (h : Hub) : Hub × Wake :=
  match h.peerOf? i with
  | none => (h, .unsent)
  | some number =>
    match (h.peers[number]?).bind (·.sendsLeft) with
    | some 0 => (h, .unsent)
    | _ =>
      (h.modifyPeer number fun p =>
        { p with sent := p.sent ++ [text], sendsLeft := p.sendsLeft.map (· - 1) }, .sent h.reading)

def act (i : Nat) (h : Hub) : Act → Hub × Option Wake
  | .tell e => ({ h with told := h.told ++ [e] }, none)
  | .connect =>
    if !h.usable then (h, some .refused)
    else
      let h := { h with connects := h.connects ++ [h.now] }
      match h.attempts with
      | [] => (h.modifyLine i fun l => { l with timer := .none }, none)
      | a :: rest =>
        let h := { h with attempts := rest }
        if a.delay = 0 then
          let (h, wake) := h.settleAttempt i a
          (h, some wake)
        else (h.modifyLine i fun l => { l with timer := .attempt (h.now + a.delay) a }, none)
  | .send text =>
    let (h, wake) := h.send i text
    (h, some wake)
  | .startPings =>
    match h.timing.pingPeriod? with
    | some period => (h.modifyLine i fun l => { l with timer := .ping (h.now + period) }, none)
    | none => (h, none)
  | .close =>
    match h.peerOf? i with
    | some number => (h.modifyPeer number fun p => { p with closed := true }, some .closed)
    | none => (h, some .closed)
  | .release =>
    let h := match h.peerOf? i with
      | some number => h.modifyPeer number fun p => { p with held := false }
      | none => h
    (h.modifyLine i fun l => { l with peer := none, timer := .none }, none)
  | .rest =>
    (h.modifyLine i fun l => { l with timer := .rest (h.now + h.timing.reconnectDelay) }, none)

def actAll (i : Nat) (h : Hub) (acts : List Act) : Hub × Option Wake :=
  acts.foldl (fun (h, wake) a =>
    let (h, next) := h.act i a
    (h, next <|> wake)) (h, none)

def wakeFrom : Nat → Nat → Wake → Hub → Hub
  | 0, _, _, h => h
  | fuel + 1, i, wake, h =>
    match h.lines[i]? with
    | none => h
    | some l =>
      let (worker, acts) := l.worker.turn h.timing wake
      let h := h.modifyLine i fun l => { l with worker }
      let (h, next) := h.actAll i acts
      match next with
      | some wake => wakeFrom fuel i wake h
      | none => h

/-- What follows at once is at most a greeting and its end, or a closing. -/
def wake (i : Nat) (w : Wake) (h : Hub) : Hub := wakeFrom 4 i w h

def fireLine (i : Nat) (h : Hub) : Hub :=
  match h.lines[i]? with
  | none => h
  | some l =>
    match l.timer with
    | .none => h
    | .attempt _ a =>
      let h := h.modifyLine i fun l => { l with timer := .none }
      let (h, w) := h.settleAttempt i a
      h.wake i w
    | .ping due =>
      let timer := match h.timing.pingPeriod? with
        | some period => Timer.ping (due + period)
        | none => .none
      (h.modifyLine i fun l => { l with timer }).wake i .ticked
    | .rest _ => (h.modifyLine i fun l => { l with timer := .none }).wake i .rested

/-- The worker whose timer runs out first, and when. -/
def next? (h : Hub) : Option (Nat × Nat) :=
  h.lines.toList.zipIdx.foldl (fun best (l, i) =>
    match l.timer.due?, best with
    | some due, some (first, j) => if due < first then some (due, i) else some (first, j)
    | some due, none => some (due, i)
    | none, best => best) none

def settleFrom : Nat → Hub → Hub
  | 0, h => h
  | fuel + 1, h =>
    match h.next? with
    | some (due, i) => if due ≤ h.now then settleFrom fuel (h.fireLine i) else h
    | none => h

def settle (h : Hub) : Hub := settleFrom (2 * h.attempts.length + h.lines.size + 2) h

def openLine (h : Hub) : Hub :=
  let i := h.lines.size
  let (worker, acts) := Worker.start
  let h := { h with lines := h.lines.push { worker } }
  let (h, next) := h.actAll i acts
  (match next with
    | some w => h.wake i w
    | none => h).settle

def cancel (i : Nat) (h : Hub) : Hub :=
  match h.lines[i]? with
  | none => h
  | some l =>
    if l.cancelled then h
    else (h.modifyLine i fun l => { l with cancelled := true, timer := .none }).wake i .cancelled

def dropAudience (i : Nat) (h : Hub) : Hub :=
  h.modifyLine i fun l => { l with worker := { l.worker with audience := false } }

/-! ### The other side -/

/-- The connection that a step of the other side is about: the given one, or the newest. -/
def peerNumber? (number : Option Nat) (h : Hub) : Option Nat :=
  match number with
  | some n => if n < h.peers.size then some n else none
  | none => if h.peers.size = 0 then none else some (h.peers.size - 1)

def say (number : Nat) (heard : List Heard) (h : Hub) : Hub × Bool :=
  match h.peers[number]? with
  | none => (h, false)
  | some p =>
    if p.held && !p.gone then
      ((heard.foldl (fun h x => h.wake p.line (.heard x)) h).settle, true)
    else (h, false)

def hangUp (number : Nat) (h : Hub) : Hub × Bool :=
  match h.peers[number]? with
  | none => (h, false)
  | some p =>
    if p.gone then (h, false)
    else
      let h := h.modifyPeer number fun p => { p with gone := true }
      ((if p.held then h.wake p.line (.heard .closed) else h).settle, true)

def atPeer (number : Option Nat) (f : Nat → Hub → Hub × Bool) (h : Hub) : Hub × Option Bool :=
  match h.peerNumber? number with
  | none => (h, none)
  | some n =>
    let (h, result) := f n h
    (h, some result)

/-! ### Time -/

def take (h : Hub) : Hub × List ConnectionEvent := ({ h with told := [] }, h.told)

def advanceFrom : Nat → Nat → Hub → Hub
  | 0, target, h => { h with now := target }
  | fuel + 1, target, h =>
    match h.next? with
    | some (due, i) =>
      if due ≤ target then advanceFrom fuel target ({ h with now := max h.now due }.fireLine i)
      else { h with now := target }
    | none => { h with now := target }

/-- How many timers can run out in a time: one a millisecond for each worker, and two for each
attempt. -/
def maxTimers (ms : Nat) (h : Hub) : Nat := (ms + 1) * (h.lines.size + 1) + 2 * h.attempts.length

def advance (ms : Nat) (h : Hub) : Hub := advanceFrom (h.maxTimers ms) (h.now + ms) h

end Hub

end CodeAtlas.Rehearsal
