import CodeAtlas.Proofs.SessionRuns
import CodeAtlas.Proofs.Shutdown
import Mathlib.Logic.Function.Basic

/-!
A session whose push connection is replaced. The workers of all its connections tell one session,
which does not tell them apart: it shows the state that it took last, whoever told it. At rest this
is the state of the connection that was heard last, which may be one that was replaced.
-/
namespace CodeAtlas

def ConnectionEvent.state? : ConnectionEvent → Option ConnectionState
  | .state s => some s
  | .push _ => none

namespace Push

def tellsOf (acts : List Act) : List ConnectionEvent :=
  acts.filterMap fun
    | .tell e => some e
    | _ => none

theorem tellsOf_states (acts : List Act) :
    (tellsOf acts).filterMap ConnectionEvent.state? = statesOf acts := by
  rw [tellsOf, List.filterMap_filterMap]
  apply List.filterMap_congr
  intro act _
  cases act with
  | tell e => cases e <;> rfl
  | _ => rfl

namespace Task

def state (k : Task) : ConnectionState := (k.worker.map (·.state)).getD .disconnected

theorem step_told (t : PushTiming) {k : Task} (stands : k.Stands) (e : Event) :
    statesOf (k.step t e).2 =
      if (k.step t e).1.state = k.state then [] else [(k.step t e).1.state] := by
  cases e with
  | beginning =>
    cases begun : k.worker with
    | none => simp [step, state, begun, Worker.start, Worker.attempt, Worker.enter, statesOf]
    | some w => simp [step, begun, statesOf]
  | wake wake =>
    cases begun : k.worker with
    | none => simp [step, begun, statesOf]
    | some w =>
      simp only [step, begun]
      split
      · simpa [state, begun] using (Worker.turn_effect t (stands w begun) wake).told
      · simp [statesOf]
  | shutDown => simp [step, state, statesOf]
  | desertion => simp [step, state, statesOf, Function.comp_def]

theorem farewell (t : PushTiming) {k : Task} {w : Worker} (stands : k.Stands)
    (begun : k.worker = some w) (unfinished : w.phase ≠ .finished)
    (up : w.state ≠ .disconnected) :
    ∃ wake, tellsOf (k.step t (.wake wake)).2 = [.state .disconnected] := by
  have coherent : w.state = w.phase.state := by
    rcases stands w begun with coherent | ⟨finished, _⟩
    · exact coherent
    · exact absurd finished unfinished
  by_cases leaves : w.phase = .leaving
  · refine ⟨.closed, ?_⟩
    simp [step, begun, offers, Worker.turn, Worker.step, leaves, Worker.finish, Worker.enter, up,
      tellsOf]
  · obtain ⟨wake, offered, fell⟩ := w.may_fall t (coherent ▸ up) leaves
    have tells : tellsOf (w.turn t wake).2 = [.state .disconnected] := by
      rcases fell with refused | lost
      · simp [refused, Worker.rest, Worker.enter, up, tellsOf]
      · simp [lost, Worker.lose, Worker.rest, Worker.enter, up, tellsOf]
    exact ⟨wake, by simpa [step, begun, offers, offered] using tells⟩

end Task

end Push

namespace Session

def line (s : Session) : Option Nat × Nat × ConnectionState × Bool :=
  (s.connection, s.opened, s.connectionState, s.tornDown)

theorem requestGraph_line (r : GraphRequest) (s : Session) : (s.requestGraph r).1.line = s.line := by
  unfold requestGraph
  split
  · rfl
  · rw [ask_session]
    rfl

theorem forgetMissing_line (s : Session) : s.forgetMissing.line = s.line := by
  simp only [forgetMissing]
  split <;> split <;> rfl

theorem complete_line (s : Session) (c : Completion) : (s.complete c).line = s.line := by
  cases c with
  | graph r result =>
    cases result with
    | ok p => exact forgetMissing_line _
    | error why => rfl
  | cleared result =>
    cases result with
    | ok done => cases done <;> rfl
    | error why => rfl
  | stats result => rfl
  | details id result =>
    simp only [complete]
    split <;> rfl
  | paths result | search query result | artifact format result => cases result <;> rfl

def stateIn? : Message → Option ConnectionState
  | .connection e => e.state?
  | .completed _ => none

theorem receive_line {s : Session} (live : s.tornDown = false) (m : Message) :
    (s.receive m).1.line =
      (s.connection, s.opened, (stateIn? m).getD s.connectionState, s.tornDown) := by
  unfold receive
  rw [if_neg (by simp [live])]
  cases m with
  | completed c => exact complete_line s c
  | connection e =>
    cases e with
    | state state => rfl
    | push e =>
      cases e with
      | graphUpdated => exact requestGraph_line .refresh s
      | ignored kind => rfl
      | delta d =>
        dsimp only [quiet]
        split
        · exact forgetMissing_line _
        · rfl

theorem perform_state {s : Session} {a : Action} (live : (s.perform a).1.tornDown = false) :
    s.tornDown = false ∧ (s.perform a).1.connectionState = s.connectionState := by
  obtain ⟨t, does, settled⟩ := perform_cases s a
  have line : (s.perform a).1.line = t.line := by
    generalize s.perform a = result at does
    cases does with
    | requests r => exact requestGraph_line r t
    | asks c other => rw [ask_session]
    | sendsNone errands none => rfl
  simp only [Session.line, Prod.mk.injEq] at line
  have still : t.tornDown = false := line.2.2.2 ▸ live
  refine ⟨?_, by rw [line.2.2.1, settled.shown still]⟩
  by_contra ended
  rw [settled.ended (by simpa using ended)] at still
  cases still

end Session

structure Line where
  task : Push.Task := {}
  queue : List ConnectionEvent := []

inductive Letter where
  | told (number : Nat) (e : ConnectionEvent)
  | ended (c : Completion)

namespace Letter

def message : Letter → Message
  | .told _ e => .connection e
  | .ended c => .completed c

def told? : Letter → Option (Nat × ConnectionState)
  | .told n e => e.state?.map fun s => (n, s)
  | .ended _ => none

end Letter

/-- A session with all its connections. Those that are not opened yet have not begun. -/
structure Board where
  session : Session := {}
  lines : Nat → Line := fun _ => {}
  inbox : List Letter := []
  /-- The states that were taken from the inbox, with who told them. -/
  taken : List (Nat × ConnectionState) := []

namespace Board

inductive Move where
  | perform (a : Session.Action)
  | beginning (number : Nat)
  | wake (number : Nat) (wake : Push.Wake)
  /-- Carries the next event of a connection to the inbox. -/
  | carry (number : Nat)
  /-- A request of the session ends. -/
  | ending (c : Completion)
  /-- The session takes the next letter. -/
  | take

def carryOut (b : Board) : Errand → Board
  | .closePush n =>
    let l := b.lines n
    { b with lines := Function.update b.lines n { l with task := { l.task with cancelled := true } } }
  | .openPush _ | .call _ => b

def work (t : PushTiming) (n : Nat) (e : Push.Task.Event) (b : Board) : Board :=
  let l := b.lines n
  { b with
    lines := Function.update b.lines n
      ⟨(l.task.step t e).1, l.queue ++ Push.tellsOf (l.task.step t e).2⟩ }

def step (t : Nat → PushTiming) (b : Board) : Move → Board
  | .perform a =>
    let next := b.session.perform a
    next.2.foldl carryOut { b with session := next.1 }
  | .beginning n => if n < b.session.opened then b.work (t n) n .beginning else b
  | .wake n wake => b.work (t n) n (.wake wake)
  | .carry n =>
    match (b.lines n).queue with
    | [] => b
    | e :: rest =>
      { b with
        lines := Function.update b.lines n { b.lines n with queue := rest }
        inbox := b.inbox ++ [.told n e] }
  | .ending c => { b with inbox := b.inbox ++ [.ended c] }
  | .take =>
    match b.inbox with
    | [] => b
    | letter :: rest =>
      { b with
        session := (b.session.receive letter.message).1
        inbox := rest
        taken := b.taken ++ letter.told?.toList }

def run (t : Nat → PushTiming) (moves : List Move) : Board := moves.foldl (step t) {}

def state (b : Board) (n : Nat) : ConnectionState := (b.lines n).task.state

/-- All that a connection said of its state, in order: what was taken, what lies in the inbox and
what is still to be carried there. -/
def said (b : Board) (n : Nat) : List ConnectionState :=
  let heard := b.taken ++ b.inbox.filterMap Letter.told?
  (heard.filter (·.1 = n)).map Prod.snd ++ (b.lines n).queue.filterMap ConnectionEvent.state?

structure Faithful (b : Board) : Prop where
  stands : ∀ n, (b.lines n).task.Stands
  said : ∀ n, (b.said n).getLast?.getD .disconnected = b.state n
  shown : b.session.tornDown = false →
    b.session.connectionState = (b.taken.getLast?.map Prod.snd).getD .disconnected

theorem carryOut_keeps (errands : List Errand) (b : Board) :
    let b' := errands.foldl carryOut b
    b'.session = b.session ∧ b'.inbox = b.inbox ∧ b'.taken = b.taken ∧
      ∀ n, (b'.lines n).task.worker = (b.lines n).task.worker ∧
        (b'.lines n).queue = (b.lines n).queue := by
  induction errands generalizing b with
  | nil => exact ⟨rfl, rfl, rfl, fun n => ⟨rfl, rfl⟩⟩
  | cons errand rest ih =>
    obtain ⟨session, inbox, taken, lines⟩ := ih (b.carryOut errand)
    cases errand with
    | call | openPush => exact ⟨session, inbox, taken, lines⟩
    | closePush closed =>
      refine ⟨session, inbox, taken, ?_⟩
      intro n
      obtain ⟨worker, queue⟩ := lines n
      rw [List.foldl_cons, worker, queue]
      simp only [carryOut, Function.update_apply]
      split
      · rename_i same
        rw [same]
        exact ⟨rfl, rfl⟩
      · exact ⟨rfl, rfl⟩

theorem perform_faithful {t : Nat → PushTiming} {b : Board} (faithful : b.Faithful)
    (a : Session.Action) : (b.step t (.perform a)).Faithful := by
  obtain ⟨session, inbox, taken, lines⟩ :=
    carryOut_keeps (b.session.perform a).2 { b with session := (b.session.perform a).1 }
  refine ⟨?_, ?_, ?_⟩
  · intro n w begun
    exact faithful.stands n w ((lines n).1.symm.trans begun)
  · intro n
    simp only [said, state, Push.Task.state, step, inbox, taken, lines n]
    exact faithful.said n
  · intro live
    simp only [step, session, taken] at live ⊢
    obtain ⟨before, same⟩ := Session.perform_state live
    rw [same, faithful.shown before]

theorem last_told {states : List ConnectionState} {s s' : ConnectionState}
    (last : states.getLast?.getD .disconnected = s) :
    (states ++ if s' = s then [] else [s']).getLast?.getD .disconnected = s' := by
  split
  · rename_i same
    rw [List.append_nil, last, same]
  · simp

theorem work_faithful (t : PushTiming) {b : Board} (faithful : b.Faithful) (n : Nat)
    (e : Push.Task.Event) : (b.work t n e).Faithful := by
  have line (m : Nat) (other : m ≠ n) : (b.work t n e).lines m = b.lines m := by
    simp [work, other]
  refine ⟨?_, ?_, faithful.shown⟩
  · intro m
    by_cases same : m = n
    · subst same
      simpa [work] using Push.Task.step_stands t (faithful.stands m) e
    · rw [line m same]
      exact faithful.stands m
  · intro m
    by_cases same : m = n
    · subst same
      have more : (b.work t m e).said m =
          b.said m ++ Push.statesOf ((b.lines m).task.step t e).2 := by
        simp [said, work, Push.tellsOf_states]
      rw [more, Push.Task.step_told t (faithful.stands m)]
      refine (last_told (faithful.said m)).trans ?_
      simp [state, work]
    · have kept : (b.work t n e).said m = b.said m := by
        simp only [said, line m same]
        rfl
      rw [kept, faithful.said m, state, state, line m same]

/-- Whatever is neither lost nor said anew stays as it was, wherever it lies. -/
theorem faithful_of_same {b b' : Board} (faithful : b.Faithful)
    (task : ∀ n, (b'.lines n).task = (b.lines n).task) (said : ∀ n, b'.said n = b.said n)
    (shown : b'.session.tornDown = false →
      b'.session.connectionState = (b'.taken.getLast?.map Prod.snd).getD .disconnected) :
    b'.Faithful := by
  refine ⟨?_, ?_, shown⟩
  · intro n
    rw [task n]
    exact faithful.stands n
  · intro n
    rw [said n, faithful.said n, state, state, task n]

theorem step_carry {t : Nat → PushTiming} {b : Board} {n : Nat} {e : ConnectionEvent}
    {rest : List ConnectionEvent} (waiting : (b.lines n).queue = e :: rest) :
    b.step t (.carry n) = { b with
      lines := Function.update b.lines n { b.lines n with queue := rest }
      inbox := b.inbox ++ [.told n e] } := by
  simp only [step, waiting]

theorem step_take {t : Nat → PushTiming} {b : Board} {letter : Letter} {rest : List Letter}
    (arrived : b.inbox = letter :: rest) :
    b.step t .take = { b with
      session := (b.session.receive letter.message).1
      inbox := rest
      taken := b.taken ++ letter.told?.toList } := by
  simp only [step, arrived]

theorem carry_faithful {t : Nat → PushTiming} {b : Board} (faithful : b.Faithful) (n : Nat) :
    (b.step t (.carry n)).Faithful := by
  cases waiting : (b.lines n).queue with
  | nil =>
    simp only [step, waiting]
    exact faithful
  | cons e rest =>
    rw [step_carry waiting]
    refine faithful_of_same faithful ?_ ?_ faithful.shown
    · intro m
      by_cases same : m = n
      · simp [same]
      · simp [same]
    · intro m
      by_cases same : m = n
      · subst same
        cases e <;> simp [said, waiting, Letter.told?, ConnectionEvent.state?, List.filterMap_cons]
      · cases e <;> simp [said, same, Ne.symm same, Letter.told?, ConnectionEvent.state?,
          List.filterMap_cons]

theorem take_faithful {t : Nat → PushTiming} {b : Board} (faithful : b.Faithful) :
    (b.step t .take).Faithful := by
  cases arrived : b.inbox with
  | nil =>
    simp only [step, arrived]
    exact faithful
  | cons letter rest =>
    rw [step_take arrived]
    refine faithful_of_same faithful (fun n => rfl) ?_ ?_
    · intro n
      cases told : letter.told? <;> simp [said, arrived, told]
    · intro live
      have before : b.session.tornDown = false := by
        by_contra ended
        rw [Session.receive_over (by simpa using ended)] at live
        exact ended live
      have line := Session.receive_line before letter.message
      simp only [Session.line, Prod.mk.injEq] at line
      rw [line.2.2.1, faithful.shown before]
      cases letter with
      | ended c => simp [Letter.told?, Letter.message, Session.stateIn?]
      | told n e => cases e <;> simp [Letter.told?, Letter.message, Session.stateIn?,
          ConnectionEvent.state?]

theorem step_faithful {t : Nat → PushTiming} {b : Board} (faithful : b.Faithful) (move : Move) :
    (b.step t move).Faithful := by
  cases move with
  | perform a => exact perform_faithful faithful a
  | beginning n =>
    simp only [step]
    split
    · exact work_faithful (t n) faithful n .beginning
    · exact faithful
  | wake n wake => exact work_faithful (t n) faithful n (.wake wake)
  | carry n => exact carry_faithful faithful n
  | ending c =>
    refine faithful_of_same faithful (fun n => rfl) ?_ faithful.shown
    intro n
    simp [said, step, Letter.told?]
  | take => exact take_faithful faithful

theorem start_faithful : ({} : Board).Faithful where
  stands := by
    intro n w begun
    cases begun
  said := fun n => rfl
  shown := fun _ => rfl

theorem run_faithful (t : Nat → PushTiming) (moves : List Move) : (run t moves).Faithful := by
  have kept (b : Board) (faithful : b.Faithful) : (moves.foldl (step t) b).Faithful := by
    induction moves generalizing b with
    | nil => exact faithful
    | cons move rest ih => exact ih _ (step_faithful faithful move)
  exact kept {} start_faithful

structure AtRest (b : Board) : Prop where
  inbox : b.inbox = []
  queues : ∀ n, (b.lines n).queue = []

def teller? (b : Board) : Option Nat := b.taken.getLast?.map Prod.fst

theorem rest_shows {b : Board} (faithful : b.Faithful) (rest : b.AtRest)
    (live : b.session.tornDown = false) (c : Nat) :
    b.session.connectionState = b.state (b.teller?.getD c) := by
  have heard (n : Nat) :
      (((b.taken.filter (·.1 = n)).map Prod.snd).getLast?).getD .disconnected = b.state n := by
    have said := faithful.said n
    simpa [Board.said, rest.inbox, rest.queues n] using said
  rw [faithful.shown live, ← heard]
  rcases List.eq_nil_or_concat b.taken with none | ⟨earlier, last, shape⟩
  · simp [none]
  · simp [shape, teller?]

theorem run_append (t : Nat → PushTiming) (moves more : List Move) :
    run t (moves ++ more) = more.foldl (step t) (run t moves) := List.foldl_append

theorem rest_after_farewell {t : Nat → PushTiming} {b : Board} {n : Nat} {wake : Push.Wake}
    (rest : b.AtRest) (live : b.session.tornDown = false)
    (tells : Push.tellsOf ((b.lines n).task.step (t n) (.wake wake)).2 = [.state .disconnected]) :
    let b' := [Move.wake n wake, .carry n, .take].foldl (step t) b
    b'.AtRest ∧ b'.session = { b.session with connectionState := .disconnected } ∧
      ∀ m, m ≠ n → b'.lines m = b.lines m := by
  let lost := b.work (t n) n (.wake wake)
  have queue : (lost.lines n).queue = [.state .disconnected] := by
    simp [lost, work, rest.queues n, tells]
  have carried : (lost.step t (.carry n)).inbox = [.told n (.state .disconnected)] := by
    rw [step_carry queue]
    simp [lost, work, rest.inbox]
  intro b'
  have last : b' = (lost.step t (.carry n)).step t .take := rfl
  rw [last, step_take carried, step_carry queue]
  refine ⟨⟨rfl, ?_⟩, ?_, ?_⟩
  · intro m
    by_cases same : m = n
    · simp [same]
    · simp [same, lost, work, rest.queues m]
  · simp [lost, work, Letter.message, Session.receive, live, Session.quiet]
  · intro m other
    simp [other, lost, work]

/-- A session shows the state that it took last. At rest this is the state of the connection that
told it, and so that of the current one exactly if both are in the same state. As long as another
connection is not at its end, it may still be heard last, when it loses what it has. -/
theorem rest_shows_current_iff_last_teller_agrees (t : Nat → PushTiming) (moves : List Move)
    {c : Nat} (live : (run t moves).session.tornDown = false)
    (current : (run t moves).session.connection = some c) :
    let b := run t moves
    b.session.connectionState = (b.taken.getLast?.map Prod.snd).getD .disconnected ∧
      (b.AtRest →
        b.session.connectionState = b.state (b.teller?.getD c) ∧
        (b.session.connectionState = b.state c ↔ ∀ n ∈ b.teller?, b.state n = b.state c) ∧
        ∀ n w, n ≠ c → (b.lines n).task.worker = some w → w.phase ≠ .finished →
          w.state ≠ .disconnected → ∃ more,
            let b' := run t (moves ++ more)
            b'.AtRest ∧ b'.session.tornDown = false ∧ b'.session.connection = some c ∧
              b'.state c = b.state c ∧ b'.session.connectionState = .disconnected) := by
  intro b
  have faithful : b.Faithful := run_faithful t moves
  refine ⟨faithful.shown live, ?_⟩
  intro rest
  have shows := rest_shows faithful rest live c
  refine ⟨shows, ?_, ?_⟩
  · rw [shows]
    cases b.teller? <;> simp
  · intro n w other begun unfinished up
    obtain ⟨wake, tells⟩ := Push.Task.farewell (t n) (faithful.stands n) begun unfinished up
    obtain ⟨still, session, lines⟩ := rest_after_farewell rest live tells
    refine ⟨[.wake n wake, .carry n, .take], ?_⟩
    intro b'
    have ended : b' = [Move.wake n wake, .carry n, .take].foldl (step t) b := run_append t moves _
    rw [← ended] at still session lines
    rw [session, state, lines c (Ne.symm other)]
    exact ⟨still, live, current, rfl, rfl⟩

/-- A connection is replaced while it is attempted. It ends before the new one begins. -/
theorem replaced_attempt_ends_first :
    let b := run (fun _ => {}) [.perform .connect, .beginning 0, .perform .connect,
      .wake 0 .cancelled, .carry 0, .carry 0, .beginning 1, .wake 1 .opened, .carry 1, .carry 1,
      .take, .take, .take, .take]
    b.session.tornDown = false ∧ b.session.connection = some 1 ∧ b.teller? = some 1 ∧
      b.session.connectionState = b.state 1 ∧ b.state 1 = .connected := by
  intro b
  have live : b.session.tornDown = false := rfl
  have current : b.session.connection = some 1 := rfl
  have rest : b.AtRest := ⟨rfl, by rintro (_ | _ | n) <;> rfl⟩
  have teller : b.teller? = some 1 := rfl
  obtain ⟨_, shows⟩ := rest_shows_current_iff_last_teller_agrees _ _ live current
  refine ⟨live, current, teller, (shows rest).2.1.mpr ?_, rfl⟩
  intro n told
  obtain rfl : 1 = n := Option.some.inj (teller.symm.trans told)
  rfl

/-- A connection is replaced. Its end is taken after the new connection is open, and it is what the
session shows for good; or the new one is open before the end of the old one is taken. -/
theorem end_of_replaced_hides_current :
    let opened : List Move := [.perform .connect, .beginning 0, .wake 0 .opened,
      .wake 0 (.sent 1000), .carry 0, .carry 0, .take, .take, .perform .connect]
    let late := run (fun _ => {}) (opened ++ [.beginning 1, .wake 1 .opened, .carry 1, .carry 1,
      .take, .take, .wake 0 .cancelled, .wake 0 .closed, .carry 0, .take])
    let early := run (fun _ => {}) (opened ++ [.wake 0 .cancelled, .wake 0 .closed, .carry 0,
      .beginning 1, .wake 1 .opened, .carry 1, .carry 1, .take])
    (late.session.tornDown = false ∧ late.session.connection = some 1 ∧ late.AtRest ∧
      late.state 1 = .connected ∧ late.session.connectionState = .disconnected) ∧
    early.session.connection = some 1 ∧ early.state 1 = .connected ∧ early.teller? = some 0 ∧
      early.session.connectionState = .disconnected := by
  intro opened late early
  have rest : late.AtRest := ⟨rfl, by rintro (_ | _ | n) <;> rfl⟩
  exact ⟨⟨rfl, rfl, rest, rfl, rfl⟩, rfl, rfl, rfl, rfl⟩

end Board

end CodeAtlas
