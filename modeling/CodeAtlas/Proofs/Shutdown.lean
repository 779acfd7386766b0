import CodeAtlas.Proofs.FrameStream
import CodeAtlas.Proofs.WorkerHistory

/-!
Workers that are shut down. The cancellation is one of the things a worker waits for, and when
another is there as well the worker may take either. So it can go on after it was shut down: it
does exactly as long as it takes something else where it could have taken the cancellation.
-/
namespace CodeAtlas.Push

/-- A sign of life: an attempt, the news that a connection is open, or a message passed on. -/
def Act.isSignOfLife : Act → Bool
  | .connect | .tell (.state .connected) | .tell (.push _) => true
  | _ => false

def attemptsIn (acts : List Act) : Nat :=
  acts.countP fun
    | .connect => true
    | _ => false

namespace Worker

def passesOn (w : Worker) : Wake → Bool
  | .heard (.text text) => w.phase = .listening && w.audience && (news? text).isSome
  | _ => false

/-- The phases in which a worker waits for the cancellation as well. -/
def heedsCancellation (w : Worker) : Bool :=
  w.phase = .connecting || w.phase = .listening || w.phase = .resting

/-- The worker has ended, or only closes its connection first. -/
def isSpent (w : Worker) : Bool := w.phase = .leaving || w.phase = .finished

theorem hear_alive {w : Worker} (listens : w.phase = .listening) (text : String) :
    (w.hear text).2.any Act.isSignOfLife = w.passesOn (.heard (.text text)) := by
  rw [hear_eq]
  cases news : news? text with
  | none => simp [passesOn, news]
  | some e => cases audience : w.audience <;> simp [passesOn, listens, audience, news, leave,
      Act.isSignOfLife]

theorem step_alive {w : Worker} (coherent : w.Coherent) (wake : Wake) :
    (w.step wake).2.any Act.isSignOfLife = (w.opens wake || w.rouses wake || w.passesOn wake) := by
  obtain ⟨phase, state, reconnects, audience⟩ := w
  have same : state = phase.state := coherent
  subst same
  have deaf {wake : Wake} (other : phase ≠ .listening) :
      passesOn ⟨phase, phase.state, reconnects, audience⟩ wake = false := by
    cases wake with
    | heard h => cases h <;> simp [passesOn, other]
    | _ => rfl
  cases phase with
  | listening =>
    cases wake with
    | heard h =>
      cases h with
      | text text => exact hear_alive rfl text
      | _ => rfl
    | _ => rfl
  | _ =>
    rw [deaf (by decide)]
    cases wake <;> rfl

theorem turn_alive (t : PushTiming) {w : Worker} (stands : w.Stands) (wake : Wake) :
    (w.turn t wake).2.any Act.isSignOfLife =
      (w.opens wake || w.rouses wake || w.passesOn wake) := by
  rcases stands with coherent | ⟨finished, _⟩
  · rcases turn_cases t w wake with stepped | ⟨greets, now, rfl, _, broken⟩
    · rw [stepped]
      exact step_alive coherent wake
    · simp [broken, breakDown, Act.isSignOfLife, opens, rouses, passesOn, greets]
  · rw [finished_turn finished]
    cases wake with
    | heard h => cases h <;> simp [opens, rouses, passesOn, finished]
    | _ => simp [opens, rouses, passesOn, finished]

theorem alive_heeds {w : Worker} {wake : Wake}
    (alive : (w.opens wake || w.rouses wake || w.passesOn wake) = true) :
    wake ≠ .cancelled ∧ w.heedsCancellation = true := by
  simp only [Bool.or_eq_true] at alive
  rcases alive with (opens | rouses) | passes
  · simp only [Worker.opens, Bool.and_eq_true, decide_eq_true_eq] at opens
    exact ⟨by simp [opens.2], by simp [heedsCancellation, opens.1]⟩
  · simp only [Worker.rouses, Bool.and_eq_true, decide_eq_true_eq] at rouses
    exact ⟨by simp [rouses.2], by simp [heedsCancellation, rouses.1]⟩
  · unfold passesOn at passes
    split at passes
    · simp only [Bool.and_eq_true, decide_eq_true_eq] at passes
      exact ⟨Wake.noConfusion, by simp [heedsCancellation, passes.1.1]⟩
    · cases passes

theorem cancelled_spends (t : PushTiming) {w : Worker} (heeds : w.heedsCancellation = true) :
    (w.turn t .cancelled).1.isSpent = true := by
  obtain ⟨phase, state, reconnects, audience⟩ := w
  cases phase with
  | connecting | listening | resting => simp [turn, Wake.fits, step, isSpent, finish, enter, leave]
  | _ => cases heeds

theorem turn_spent (t : PushTiming) {w : Worker} (spent : w.isSpent = true) (wake : Wake) :
    (w.turn t wake).1.isSpent = true ∧
      (w.opens wake || w.rouses wake || w.passesOn wake) = false := by
  constructor
  · obtain ⟨phase, state, reconnects, audience⟩ := w
    cases phase with
    | leaving => cases wake <;> simp [turn, step, isSpent, finish, enter]
    | finished => rw [finished_turn rfl]; exact spent
    | _ => cases spent
  · by_contra alive
    have heeds := (alive_heeds (Bool.of_not_eq_false alive)).2
    obtain ⟨phase, state, reconnects, audience⟩ := w
    cases phase with
    | leaving | finished => cases heeds
    | _ => cases spent

theorem may_fall {w : Worker} (t : PushTiming) (busy : w.phase.state ≠ .disconnected)
    (stays : w.phase ≠ .leaving) :
    ∃ wake, wake ≠ .cancelled ∧ (w.turn t wake = w.rest ∨ w.turn t wake = w.lose) := by
  cases phase : w.phase with
  | connecting => exact ⟨.refused, Wake.noConfusion, Or.inl (by simp [turn, step, phase])⟩
  | greeting | pinging =>
    exact ⟨.unsent, Wake.noConfusion, Or.inr (by simp [turn, Wake.fits, step, phase])⟩
  | listening => exact ⟨.heard .closed, Wake.noConfusion, Or.inr (by simp [turn, step, phase])⟩
  | leaving => exact absurd phase stays
  | resting | finished =>
    rw [phase] at busy
    exact absurd rfl busy

end Worker

/-- A worker as a task, which begins some time after it was started. -/
structure Task where
  /-- None until it has begun. -/
  worker : Option Worker := none
  cancelled : Bool := false
  audience : Bool := true

namespace Task

inductive Event where
  | beginning
  /-- The worker takes one of the things it waits for. -/
  | wake (wake : Wake)
  | shutDown
  | desertion

/-- The cancellation is there once the task was shut down, and then for good. -/
def offers (k : Task) (wake : Wake) : Bool := wake ≠ .cancelled || k.cancelled

def step (t : PushTiming) (k : Task) : Event → Task × List Act
  | .beginning =>
    match k.worker with
    | none => ({ k with worker := some { Worker.start.1 with audience := k.audience } }, Worker.start.2)
    | some _ => (k, [])
  | .wake wake =>
    match k.worker with
    | some w =>
      if k.offers wake then ({ k with worker := some (w.turn t wake).1 }, (w.turn t wake).2)
      else (k, [])
    | none => (k, [])
  | .shutDown => ({ k with cancelled := true }, [])
  | .desertion =>
    ({ k with audience := false, worker := k.worker.map fun w => { w with audience := false } }, [])

def run (t : PushTiming) (k : Task) : List Event → Task × List Act
  | [] => (k, [])
  | e :: rest => ((run t (k.step t e).1 rest).1, (k.step t e).2 ++ (run t (k.step t e).1 rest).2)

def Stands (k : Task) : Prop := ∀ w, k.worker = some w → w.Stands

theorem step_stands (t : PushTiming) {k : Task} (stands : k.Stands) (e : Event) :
    (k.step t e).1.Stands := by
  intro w present
  cases e with
  | beginning =>
    cases before : k.worker with
    | none =>
      simp only [step, before, Option.some.injEq] at present
      subst present
      exact Or.inl rfl
    | some old =>
      simp only [step, before] at present
      exact stands w (before.trans present)
  | wake wake =>
    cases before : k.worker with
    | none =>
      simp only [step, before] at present
      cases present
    | some old =>
      simp only [step, before] at present
      split at present
      · simp only [Option.some.injEq] at present
        subst present
        exact (Worker.turn_effect t (stands old before) wake).stands
      · exact stands w present
  | shutDown => exact stands w present
  | desertion =>
    obtain ⟨old, before, rfl⟩ := Option.map_eq_some_iff.mp present
    exact stands old before

theorem run_stands (t : PushTiming) {k : Task} (stands : k.Stands) (events : List Event) :
    (k.run t events).1.Stands := by
  induction events generalizing k with
  | nil => exact stands
  | cons e rest ih => exact ih (step_stands t stands e)

theorem run_append (t : PushTiming) (k : Task) (before after : List Event) :
    k.run t (before ++ after) = (((k.run t before).1.run t after).1,
      (k.run t before).2 ++ ((k.run t before).1.run t after).2) := by
  induction before generalizing k with
  | nil => rfl
  | cons e rest ih => simp [run, ih]

def goesOn (k : Task) : Event → Bool
  | .beginning => k.worker.isNone
  | .wake wake => k.worker.any fun w => w.opens wake || w.rouses wake || w.passesOn wake
  | .shutDown | .desertion => false

theorem step_alive (t : PushTiming) {k : Task} (stands : k.Stands) (e : Event) :
    (k.step t e).2.any Act.isSignOfLife = k.goesOn e := by
  cases e with
  | beginning => cases begun : k.worker <;> simp [step, goesOn, begun, Worker.start,
      Worker.attempt, Worker.enter, Act.isSignOfLife]
  | wake wake =>
    cases begun : k.worker with
    | none => simp [step, goesOn, begun]
    | some w =>
      simp only [step, goesOn, begun, Option.any_some]
      split
      · exact Worker.turn_alive t (stands w begun) wake
      · rename_i unoffered
        obtain rfl : wake = .cancelled := by simp_all [offers]
        simp [Worker.opens, Worker.rouses, Worker.passesOn]
  | shutDown | desertion => rfl

theorem run_alive (t : PushTiming) {k : Task} (stands : k.Stands) (events : List Event) :
    (k.run t events).2.any Act.isSignOfLife = true ↔
      ∃ passed e rest, events = passed ++ e :: rest ∧ (k.run t passed).1.goesOn e = true := by
  induction events generalizing k with
  | nil => simp [run]
  | cons e rest ih =>
    simp only [run, List.any_append, Bool.or_eq_true, ih (step_stands t stands e),
      step_alive t stands]
    constructor
    · rintro (now | ⟨passed, later, others, split, alive⟩)
      · exact ⟨[], e, rest, rfl, now⟩
      · exact ⟨e :: passed, later, others, by rw [split, List.cons_append], alive⟩
    · rintro ⟨passed, later, others, split, alive⟩
      cases passed with
      | nil =>
        obtain ⟨rfl, rfl⟩ := List.cons.inj split
        exact Or.inl alive
      | cons first passed =>
        obtain ⟨rfl, tail⟩ := List.cons.inj split
        exact Or.inr ⟨passed, later, others, tail, alive⟩

theorem run_cancelled {t : PushTiming} {k : Task} (cancelled : k.cancelled = true)
    (events : List Event) : (k.run t events).1.cancelled = true := by
  induction events generalizing k with
  | nil => exact cancelled
  | cons e rest ih =>
    apply ih
    cases e with
    | beginning => cases begun : k.worker <;> simpa [step, begun] using cancelled
    | wake wake =>
      cases begun : k.worker with
      | none => simpa [step, begun] using cancelled
      | some w =>
        simp only [step, begun]
        split <;> exact cancelled
    | shutDown => rfl
    | desertion => exact cancelled

/-! ### When the cancellation is taken -/

def Spent (k : Task) : Prop := ∃ w, k.worker = some w ∧ w.isSpent = true

theorem step_spent {t : PushTiming} {k : Task} (spent : k.Spent) (e : Event) :
    (k.step t e).1.Spent ∧ k.goesOn e = false := by
  obtain ⟨w, begun, spent⟩ := spent
  cases e with
  | beginning => exact ⟨⟨w, by simp [step, begun], spent⟩, by simp [goesOn, begun]⟩
  | wake wake =>
    obtain ⟨still, quiet⟩ := Worker.turn_spent t spent wake
    refine ⟨?_, by simpa [goesOn, begun] using quiet⟩
    simp only [step, begun]
    split
    · exact ⟨_, rfl, still⟩
    · exact ⟨w, begun, spent⟩
  | shutDown => exact ⟨⟨w, begun, spent⟩, rfl⟩
  | desertion => exact ⟨⟨{ w with audience := false }, by simp [step, begun], spent⟩, rfl⟩

theorem run_spent {t : PushTiming} {k : Task} (spent : k.Spent) (events : List Event) :
    (k.run t events).1.Spent := by
  induction events generalizing k with
  | nil => exact spent
  | cons e rest ih => exact ih (step_spent spent e).1

/-- A worker that goes on after a wake could have taken the cancellation there, if there was one. -/
theorem goesOn_heeds {k : Task} {wake : Wake} (alive : k.goesOn (.wake wake) = true) :
    wake ≠ .cancelled ∧ ∃ w, k.worker = some w ∧ w.heedsCancellation = true := by
  cases begun : k.worker with
  | none => simp [goesOn, begun] at alive
  | some w =>
    simp only [goesOn, begun, Option.any_some] at alive
    obtain ⟨other, heeds⟩ := Worker.alive_heeds alive
    exact ⟨other, w, rfl, heeds⟩

theorem cancel_spends {t : PushTiming} {k : Task} {w : Worker} (cancelled : k.cancelled = true)
    (begun : k.worker = some w) (heeds : w.heedsCancellation = true) :
    (k.step t (.wake .cancelled)).1.Spent := by
  refine ⟨(w.turn t .cancelled).1, ?_, Worker.cancelled_spends t heeds⟩
  simp [step, begun, offers, cancelled]

/-! ### When it is not -/

theorem unspent_rests {t : PushTiming} {k : Task} (unspent : ¬ k.Spent) :
    ∃ events w, (k.run t events).1.worker = some w ∧ w.phase = .resting := by
  cases begun : k.worker with
  | none =>
    refine ⟨[.beginning, .wake .refused], ?_⟩
    simp [run, step, begun, offers, Worker.turn, Worker.step, Worker.start, Worker.attempt,
      Worker.enter, Worker.rest]
  | some w =>
    cases phase : w.phase with
    | connecting | greeting | listening | pinging =>
      obtain ⟨wake, offered, fell⟩ := w.may_fall t (by simp [phase, Phase.state]) (by simp [phase])
      have rests : (w.turn t wake).1.phase = .resting := by
        rcases fell with refused | lost
        · rw [refused]
          rfl
        · rw [lost]
          rfl
      exact ⟨[.wake wake], (w.turn t wake).1, by simp [run, step, begun, offers, offered], rests⟩
    | resting => exact ⟨[], w, begun, phase⟩
    | leaving | finished => exact absurd ⟨w, begun, by simp [Worker.isSpent, phase]⟩ unspent

theorem resting_attempts {t : PushTiming} {k : Task} {w : Worker} (begun : k.worker = some w)
    (rests : w.phase = .resting) (n : Nat) :
    ∃ events, n ≤ attemptsIn (k.run t events).2 := by
  induction n generalizing k w with
  | zero => exact ⟨[], Nat.zero_le _⟩
  | succ n ih =>
    have again : ∃ w', (k.run t [.wake .rested, .wake .refused]).1.worker = some w' ∧
        w'.phase = .resting := by
      simp [run, step, begun, offers, Worker.turn, Worker.step, rests, Worker.attempt,
        Worker.enter, Worker.rest]
    have once : 1 ≤ attemptsIn (k.run t [.wake .rested, .wake .refused]).2 := by
      simp [run, step, begun, offers, Worker.turn, Worker.step, rests, Worker.attempt,
        Worker.enter, Worker.rest, attemptsIn]
    obtain ⟨w', begun', rests'⟩ := again
    obtain ⟨events, many⟩ := ih begun' rests'
    refine ⟨[.wake .rested, .wake .refused] ++ events, ?_⟩
    rw [run_append, attemptsIn, List.countP_append]
    unfold attemptsIn at once many
    omega

theorem alive_of_attempts {acts : List Act} (attempted : 1 ≤ attemptsIn acts) :
    acts.any Act.isSignOfLife = true := by
  obtain ⟨act, member, connects⟩ := List.countP_pos_iff.mp attempted
  refine List.any_eq_true.mpr ⟨act, member, ?_⟩
  cases act with
  | connect => rfl
  | _ => cases connects

theorem quiet_iff_spent (t : PushTiming) {k : Task} (stands : k.Stands) :
    (∀ more, (k.run t more).2.any Act.isSignOfLife = false) ↔ k.Spent := by
  constructor
  · intro quiet
    by_contra unspent
    obtain ⟨first, w, begun, rests⟩ := unspent_rests (t := t) unspent
    obtain ⟨second, attempted⟩ := resting_attempts (t := t) begun rests 1
    have alive := quiet (first ++ second)
    rw [run_append, List.any_append, alive_of_attempts attempted, Bool.or_true] at alive
    cases alive
  · intro spent more
    rw [← Bool.not_eq_true, run_alive t stands]
    rintro ⟨passed, e, rest, _, alive⟩
    rw [(step_spent (t := t) (run_spent spent passed) e).2] at alive
    cases alive

/-- Once a task was shut down: it shows a sign of life just where an event lets it go on, and then
it had not begun, or could have taken the cancellation there. It shows none any more exactly if it
has taken it; till then it may still make any number of attempts. -/
theorem shutdown_final_iff_cancellation_taken (t : PushTiming) (before after : List Event) :
    let k := (run t {} (before ++ [.shutDown])).1
    let later := (k.run t after).1
    ((k.run t after).2.any Act.isSignOfLife = true ↔
        ∃ passed e rest, after = passed ++ e :: rest ∧ (k.run t passed).1.goesOn e = true) ∧
      (∀ e, later.goesOn e = true → e = .beginning ∧ later.worker = none ∨
        e ≠ .wake .cancelled ∧ (later.step t (.wake .cancelled)).1.Spent) ∧
      ((∀ more, (later.run t more).2.any Act.isSignOfLife = false) ↔ later.Spent) ∧
      (¬ later.Spent → ∀ n, ∃ more, n ≤ attemptsIn (later.run t more).2) := by
  intro k later
  have stands : k.Stands := run_stands t (by intro w begun; cases begun) _
  have cancelled : later.cancelled = true := by
    apply run_cancelled
    simp only [k, run_append]
    rfl
  refine ⟨run_alive t stands after, ?_, quiet_iff_spent t (run_stands t stands after), ?_⟩
  · intro e alive
    cases e with
    | beginning => exact Or.inl ⟨rfl, by simpa [goesOn] using alive⟩
    | wake wake =>
      obtain ⟨other, w, begun, heeds⟩ := goesOn_heeds alive
      refine Or.inr ⟨?_, cancel_spends cancelled begun heeds⟩
      intro same
      exact other (Event.wake.inj same)
    | shutDown | desertion => cases alive
  · intro unspent n
    obtain ⟨first, w, begun, rests⟩ := unspent_rests (t := t) unspent
    obtain ⟨second, many⟩ := resting_attempts (t := t) begun rests n
    refine ⟨first ++ second, ?_⟩
    rw [run_append, attemptsIn, List.countP_append]
    unfold attemptsIn at many
    omega

/-- A worker that is shut down at the end of a rest tries again, tells that it is connected and
passes a message on. Had it taken the cancellation, it would have ended. -/
theorem rested_worker_outlives_shutdown :
    let before : List Event := [.beginning, .wake .refused, .shutDown]
    let after : List Event := [.wake .rested, .wake .opened, .wake (.sent 1000),
      .wake (.heard (.text "\x7b\"type\":\"graph_updated\"\x7d"))]
    let k := (run {} {} before).1
    k.cancelled = true ∧ attemptsIn (k.run {} after).2 = 1 ∧
      statesOf (k.run {} after).2 = [.connecting, .connected] ∧
      (pushesOf (k.run {} after).2).length = 1 ∧ (k.step {} (.wake .cancelled)).1.Spent := by
  intro before after k
  refine ⟨by decide, by decide +kernel, by decide +kernel, by decide +kernel, ?_⟩
  exact ⟨(Worker.start.1.rest.1.finish).1, by rfl, by decide⟩

end Task

end CodeAtlas.Push
