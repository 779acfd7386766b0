import CodeAtlas.Push.Event
import CodeAtlas.Push.Frame
import CodeAtlas.Settings

/-!
The worker that keeps the push channel up. It connects, subscribes and listens; when a connection
is lost or refused it rests and tries again, until it is cancelled.

Each step answers one thing the worker was waiting for. Where it waits for several things at once,
any of them may come first, so that a run is a list of wakes.
-/
namespace CodeAtlas

inductive ConnectionState where
  | disconnected
  | connecting
  | connected
  deriving DecidableEq, Repr

def ConnectionState.name : ConnectionState → String
  | .disconnected => "disconnected"
  | .connecting => "connecting"
  | .connected => "connected"

inductive ConnectionEvent where
  | state (s : ConnectionState)
  | push (e : PushEvent)

namespace Push

/-- What a worker waits for. -/
inductive Phase where
  /-- The connection, or the cancellation. -/
  | connecting
  /-- That the subscription is sent. -/
  | greeting
  /-- A frame, the time for a ping, or the cancellation. -/
  | listening
  /-- That a ping is sent. -/
  | pinging
  /-- That the connection is closed, after which the worker ends. -/
  | leaving
  /-- The time for the next attempt, or the cancellation. -/
  | resting
  | finished
  deriving DecidableEq, Repr

inductive Wake where
  | cancelled
  | opened
  | refused
  /-- A text was sent, and the clock now reads so many nanoseconds. -/
  | sent (now : Nat)
  | unsent
  | ticked
  | heard (h : Heard)
  | closed
  | rested
  deriving DecidableEq, Repr

def Wake.fits (t : PushTiming) : Wake → Bool
  | .sent now => t.fitsClock now
  | _ => true

inductive Act where
  | tell (e : ConnectionEvent)
  | connect
  | send (text : String)
  /-- Begins to count the time between pings. -/
  | startPings
  | close
  /-- Lets the connection go. -/
  | release
  | rest

structure Worker where
  phase : Phase
  state : ConnectionState
  /-- How often it tried again. -/
  reconnects : UInt64
  /-- Whether someone still takes its events. -/
  audience : Bool

namespace Worker

def enter (next : ConnectionState) (w : Worker) : Worker × List Act :=
  ({ w with state := next }, if w.state = next then [] else [.tell (.state next)])

def attempt (w : Worker) : Worker × List Act :=
  let (w, acts) := w.enter .connecting
  ({ w with phase := .connecting }, acts ++ [.connect])

def rest (w : Worker) : Worker × List Act :=
  let (w, acts) := w.enter .disconnected
  ({ w with phase := .resting }, acts ++ [.rest])

def lose (w : Worker) : Worker × List Act :=
  let (w, acts) := w.rest
  (w, .release :: acts)

def finish (w : Worker) : Worker × List Act :=
  let (w, acts) := w.enter .disconnected
  ({ w with phase := .finished }, acts)

def leave (w : Worker) : Worker × List Act := ({ w with phase := .leaving }, [.close])

/-- A text from the other side. Malformed and unknown messages are passed over. With nobody left to
tell a message to, the worker ends. -/
def hear (text : String) (w : Worker) : Worker × List Act :=
  match PushEvent.parse text with
  | .error _ | .ok (.ignored _) => (w, [])
  | .ok e => if w.audience then (w, [.tell (.push e)]) else w.leave

/-- One step. A wake that the worker does not wait for changes nothing. -/
def step (w : Worker) (wake : Wake) : Worker × List Act :=
  match w.phase, wake with
  | .connecting, .cancelled => w.finish
  | .connecting, .opened =>
    let (w, acts) := w.enter .connected
    ({ w with phase := .greeting }, acts ++ [.send subscribeMessage])
  | .connecting, .refused => w.rest
  | .greeting, .sent _ => ({ w with phase := .listening }, [.startPings])
  | .greeting, .unsent => w.lose
  | .listening, .cancelled => w.leave
  | .listening, .ticked => ({ w with phase := .pinging }, [.send pingMessage])
  | .listening, .heard (.text text) => w.hear text
  | .listening, .heard (.failed _) => w.lose
  | .listening, .heard .closed => w.lose
  | .pinging, .sent _ => ({ w with phase := .listening }, [])
  | .pinging, .unsent => w.lose
  | .leaving, .closed =>
    let (w, acts) := w.finish
    (w, .release :: acts)
  | .resting, .cancelled => w.finish
  | .resting, .rested => { w with reconnects := w.reconnects + 1 }.attempt
  | _, _ => (w, [])

/-- Ends where it stands: nothing is told, and the state stays. -/
def breakDown (w : Worker) : Worker × List Act := ({ w with phase := .finished }, [.release])

/-- One step under a timing. Once it has subscribed a worker sets its clock for the first ping, and
it breaks down if the clock cannot hold that time. -/
def turn (t : PushTiming) (w : Worker) (wake : Wake) : Worker × List Act :=
  if w.phase = .greeting && !wake.fits t then w.breakDown else w.step wake

def start : Worker × List Act :=
  attempt { phase := .connecting, state := .disconnected, reconnects := 0, audience := true }

end Worker

end Push

end CodeAtlas
