import CodeAtlas.Push.Worker

/-!
Runs of the push worker: one wake after the other, whichever of those it waits for comes. In every
worker that can come about the state is that of the phase.
-/
namespace CodeAtlas.Push

def Phase.state : Phase → ConnectionState
  | .connecting => .connecting
  | .greeting | .listening | .pinging | .leaving => .connected
  | .resting | .finished => .disconnected

namespace Worker

def run (w : Worker) : List Wake → Worker × List Act
  | [] => (w, [])
  | wake :: rest =>
    let next := w.step wake
    let later := run next.1 rest
    (later.1, next.2 ++ later.2)

theorem run_append (w : Worker) (before after : List Wake) :
    w.run (before ++ after) =
      (((w.run before).1.run after).1, (w.run before).2 ++ ((w.run before).1.run after).2) := by
  induction before generalizing w with
  | nil => rfl
  | cons wake rest ih => simp [run, ih]

/-- The workers that can come about. Its listener may go away at any time. -/
inductive Reachable : Worker → Prop where
  | start : Reachable start.1
  | step {w : Worker} (reached : Reachable w) (wake : Wake) : Reachable (w.step wake).1
  | desert {w : Worker} (reached : Reachable w) : Reachable { w with audience := false }

theorem Reachable.run {w : Worker} (reached : Reachable w) (wakes : List Wake) :
    Reachable (w.run wakes).1 := by
  induction wakes generalizing w with
  | nil => exact reached
  | cons wake rest ih => exact ih (reached.step wake)

def Coherent (w : Worker) : Prop := w.state = w.phase.state

theorem hear_cases (w : Worker) (text : String) :
    (w.hear text).1 = w ∨ (w.hear text).1 = w.leave.1 := by
  unfold hear
  split
  · exact Or.inl rfl
  · exact Or.inl rfl
  · split
    · exact Or.inl rfl
    · exact Or.inr rfl

theorem step_coherent {w : Worker} (coherent : w.Coherent) (wake : Wake) :
    (w.step wake).1.Coherent := by
  obtain ⟨phase, state, reconnects, audience⟩ := w
  cases phase with
  | connecting =>
    cases wake with
    | cancelled | opened | refused => rfl
    | _ => exact coherent
  | greeting | pinging =>
    cases wake with
    | unsent => rfl
    | _ => exact coherent
  | listening =>
    cases wake with
    | heard h =>
      cases h with
      | text text =>
        rcases hear_cases ⟨.listening, state, reconnects, audience⟩ text with same | left
        · exact (congrArg Coherent same).mpr coherent
        · exact (congrArg Coherent left).mpr coherent
      | failed why => rfl
      | closed => rfl
    | _ => exact coherent
  | leaving =>
    cases wake with
    | closed => rfl
    | _ => exact coherent
  | resting =>
    cases wake with
    | cancelled | rested => rfl
    | _ => exact coherent
  | finished => exact coherent

theorem Reachable.coherent {w : Worker} (reached : Reachable w) : w.Coherent := by
  induction reached with
  | start => rfl
  | step _ wake ih => exact step_coherent ih wake
  | desert _ ih => exact ih

end Worker

end CodeAtlas.Push
