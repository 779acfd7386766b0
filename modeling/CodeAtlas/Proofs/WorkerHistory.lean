import CodeAtlas.Proofs.WorkerRuns
import Mathlib.Data.List.Chain

/-!
The history of a push worker: the states it told, the attempts it began and the rests before them,
and the texts it gave to each connection. They agree with the worker at every point where it waits,
whatever comes to it there. A worker that ends is disconnected, unless it broke down because its
clock could not be set for the first ping; then it stays connected for good.
-/
namespace CodeAtlas

/-- The states that can come next. -/
def ConnectionState.next : ConnectionState → List ConnectionState
  | .disconnected => [.connecting]
  | .connecting => [.connected, .disconnected]
  | .connected => [.disconnected]

namespace Push

def statesOf (acts : List Act) : List ConnectionState :=
  acts.filterMap fun
    | .tell (.state s) => some s
    | _ => none

def textsOf (acts : List Act) : List String :=
  acts.filterMap fun
    | .send text => some text
    | _ => none

namespace Worker

def opens (w : Worker) (wake : Wake) : Bool := w.phase = .connecting && wake = .opened

def rouses (w : Worker) (wake : Wake) : Bool := w.phase = .resting && wake = .rested

def pings (w : Worker) (wake : Wake) : Bool := w.phase = .listening && wake = .ticked

/-- The state is that of the phase, or the worker broke down while it was connected. -/
def Stands (w : Worker) : Prop :=
  w.Coherent ∨ w.phase = .finished ∧ w.state = .connected

/-- All that a turn shows: the state is told if it is another one, and it is one that can come next;
an attempt begins where a rest ends, and is counted there; and a connection begins with the
subscription. -/
structure Effect (w : Worker) (wake : Wake) (r : Worker × List Act) : Prop where
  stands : r.1.Stands
  told : statesOf r.2 = if r.1.state = w.state then [] else [r.1.state]
  moves : r.1.state = w.state ∨ r.1.state ∈ w.state.next
  begins : r.1.state = .connecting ∧ w.state ≠ .connecting ↔ w.rouses wake = true
  connects : r.1.state = .connected ∧ w.state ≠ .connected ↔ w.opens wake = true
  count : r.1.reconnects = if w.rouses wake then w.reconnects + 1 else w.reconnects
  sent : textsOf r.2 = if w.opens wake then [subscribeMessage] else
    if w.pings wake then [pingMessage] else []

theorem effect_of_same {w : Worker} {wake : Wake} {r : Worker × List Act}
    (stands : r.1.Stands) (state : r.1.state = w.state) (count : r.1.reconnects = w.reconnects)
    (told : statesOf r.2 = []) (opens : w.opens wake = false) (rouses : w.rouses wake = false)
    (sent : textsOf r.2 = if w.pings wake then [pingMessage] else []) : Effect w wake r where
  stands := stands
  told := by rw [told, if_pos state]
  moves := Or.inl state
  begins := by simp [state, rouses]
  connects := by simp [state, opens]
  count := by simp [count, rouses]
  sent := by simp [sent, opens]

theorem effect_of_fall {w : Worker} {wake : Wake} {r : Worker × List Act}
    (phase : r.1.phase.state = .disconnected) (state : r.1.state = .disconnected)
    (count : r.1.reconnects = w.reconnects)
    (told : statesOf r.2 = if w.state = .disconnected then [] else [.disconnected])
    (opens : w.opens wake = false) (rouses : w.rouses wake = false)
    (sent : textsOf r.2 = if w.pings wake then [pingMessage] else []) : Effect w wake r where
  stands := Or.inl (state.trans phase.symm)
  told := by rw [told, state]; simp only [eq_comm]
  moves := by cases before : w.state <;> simp [state, ConnectionState.next]
  begins := by simp [state, rouses]
  connects := by simp [state, opens]
  count := by simp [count, rouses]
  sent := by simp [sent, opens]

theorem hear_effect {w : Worker} (listens : w.phase = .listening)
    (connected : w.state = .connected) (text : String) :
    Effect w (.heard (.text text)) (w.hear text) := by
  have stands : w.Stands := Or.inl (by rw [Coherent, connected, listens]; rfl)
  have unopened : w.opens (.heard (.text text)) = false := by simp [opens]
  have unroused : w.rouses (.heard (.text text)) = false := by simp [rouses]
  have unpinged : w.pings (.heard (.text text)) = false := by simp [pings]
  unfold hear
  split
  · exact effect_of_same stands rfl rfl rfl unopened unroused (by rw [unpinged]; rfl)
  · exact effect_of_same stands rfl rfl rfl unopened unroused (by rw [unpinged]; rfl)
  · split
    · exact effect_of_same stands rfl rfl rfl unopened unroused (by rw [unpinged]; rfl)
    · exact effect_of_same (Or.inl connected) rfl rfl rfl unopened unroused
        (by rw [unpinged]; rfl)

theorem step_effect {w : Worker} (coherent : w.Coherent) (wake : Wake) :
    Effect w wake (w.step wake) := by
  obtain ⟨phase, state, reconnects, audience⟩ := w
  -- a wake that is not waited for is the same in every phase
  have ignores {wake : Wake} (opens : opens ⟨phase, state, reconnects, audience⟩ wake = false)
      (rouses : rouses ⟨phase, state, reconnects, audience⟩ wake = false)
      (pings : pings ⟨phase, state, reconnects, audience⟩ wake = false) :
      Effect ⟨phase, state, reconnects, audience⟩ wake
        (⟨phase, state, reconnects, audience⟩, []) :=
    effect_of_same (Or.inl coherent) rfl rfl rfl opens rouses (by rw [pings]; rfl)
  have same : state = phase.state := coherent
  subst same
  cases phase with
  | connecting =>
    cases wake with
    | cancelled | refused => exact effect_of_fall rfl rfl rfl rfl rfl rfl rfl
    | opened =>
      refine ⟨Or.inl rfl, rfl, Or.inr List.mem_cons_self, ?_, ?_, rfl, rfl⟩
      · exact iff_of_false (fun moved => moved.2 rfl) Bool.false_ne_true
      · exact iff_of_true ⟨rfl, ConnectionState.noConfusion⟩ rfl
    | _ => exact ignores rfl rfl rfl
  | greeting =>
    cases wake with
    | sent now => exact effect_of_same (Or.inl rfl) rfl rfl rfl rfl rfl rfl
    | unsent => exact effect_of_fall rfl rfl rfl rfl rfl rfl rfl
    | _ => exact ignores rfl rfl rfl
  | pinging =>
    cases wake with
    | sent now => exact effect_of_same (Or.inl rfl) rfl rfl rfl rfl rfl rfl
    | unsent => exact effect_of_fall rfl rfl rfl rfl rfl rfl rfl
    | _ => exact ignores rfl rfl rfl
  | listening =>
    cases wake with
    | cancelled | ticked => exact effect_of_same (Or.inl rfl) rfl rfl rfl rfl rfl rfl
    | heard h =>
      cases h with
      | text text => exact hear_effect rfl rfl text
      | failed why => exact effect_of_fall rfl rfl rfl rfl rfl rfl rfl
      | closed => exact effect_of_fall rfl rfl rfl rfl rfl rfl rfl
    | _ => exact ignores rfl rfl rfl
  | leaving =>
    cases wake with
    | closed => exact effect_of_fall rfl rfl rfl rfl rfl rfl rfl
    | _ => exact ignores rfl rfl rfl
  | resting =>
    cases wake with
    | cancelled => exact effect_of_fall rfl rfl rfl rfl rfl rfl rfl
    | rested =>
      refine ⟨Or.inl rfl, rfl, Or.inr List.mem_cons_self, ?_, ?_, rfl, rfl⟩
      · exact iff_of_true ⟨rfl, ConnectionState.noConfusion⟩ rfl
      · exact iff_of_false (fun moved => ConnectionState.noConfusion moved.1) Bool.false_ne_true
    | _ => exact ignores rfl rfl rfl
  | finished => exact ignores rfl rfl rfl

theorem finished_turn {t : PushTiming} {w : Worker} (finished : w.phase = .finished) (wake : Wake) :
    w.turn t wake = (w, []) := by
  simp [turn, step, finished]

/-- A turn is a step, or the worker has subscribed and breaks down. -/
theorem turn_cases (t : PushTiming) (w : Worker) (wake : Wake) :
    w.turn t wake = w.step wake ∨ w.phase = .greeting ∧ ∃ now, wake = .sent now ∧
      t.fitsClock now = false ∧ w.turn t wake = w.breakDown := by
  unfold turn
  split
  · rename_i breaks
    simp only [Bool.and_eq_true, decide_eq_true_eq, Bool.not_eq_true'] at breaks
    obtain ⟨greets, unfit⟩ := breaks
    cases wake with
    | sent now => exact Or.inr ⟨greets, now, rfl, unfit, rfl⟩
    | _ => cases unfit
  · exact Or.inl rfl

theorem turn_effect (t : PushTiming) {w : Worker} (stands : w.Stands) (wake : Wake) :
    Effect w wake (w.turn t wake) := by
  rcases stands with coherent | ⟨finished, connected⟩
  · rcases turn_cases t w wake with stepped | ⟨greets, _, _, _, broken⟩
    · rw [stepped]
      exact step_effect coherent wake
    · have connected : w.state = .connected := by rw [coherent, greets]; rfl
      rw [broken]
      exact effect_of_same (Or.inr ⟨rfl, connected⟩) rfl rfl rfl (by simp [opens, greets])
        (by simp [rouses, greets]) (by simp [pings, greets, breakDown, textsOf])
  · rw [finished_turn finished]
    exact effect_of_same (Or.inr ⟨finished, connected⟩) rfl rfl rfl
      (by simp [opens, finished]) (by simp [rouses, finished]) (by simp [pings, finished, textsOf])

end Worker

/-- What can come to a worker: a wake, or that nobody takes its events any more. -/
inductive Occurrence where
  | wake (wake : Wake)
  | desertion

inductive Milestone where
  | rested
  | begun
  deriving DecidableEq

structure History where
  worker : Worker
  states : List ConnectionState
  milestones : List Milestone
  /-- The texts given to each connection, whether or not it took them. The newest comes first. -/
  letters : List (List String)

namespace History

def deliver (texts : List String) : List (List String) → List (List String)
  | [] => if texts = [] then [] else [texts]
  | newest :: older => (newest ++ texts) :: older

def beginnings (states : List ConnectionState) : List Milestone :=
  (states.filter (· = .connecting)).map fun _ => .begun

def start : History where
  worker := Worker.start.1
  states := statesOf Worker.start.2
  milestones := beginnings (statesOf Worker.start.2)
  letters := deliver (textsOf Worker.start.2) []

def after (t : PushTiming) (h : History) (wake : Wake) : History :=
  let next := h.worker.turn t wake
  { worker := next.1
    states := h.states ++ statesOf next.2
    milestones := h.milestones ++
      ((if h.worker.rouses wake then [.rested] else []) ++ beginnings (statesOf next.2))
    letters := deliver (textsOf next.2)
      (if h.worker.opens wake then [] :: h.letters else h.letters) }

def follow (t : PushTiming) (h : History) : Occurrence → History
  | .wake wake => h.after t wake
  | .desertion => { h with worker := { h.worker with audience := false } }

def run (t : PushTiming) (script : List Occurrence) : History := script.foldl (follow t) start

/-! ### Rounds -/

def round (connected : Bool) : List ConnectionState :=
  if connected then [.connecting, .connected, .disconnected] else [.connecting, .disconnected]

def soFar : ConnectionState → List ConnectionState
  | .disconnected => []
  | .connecting => [.connecting]
  | .connected => [.connecting, .connected]

theorem rounds_after {rounds : List Bool} {states : List ConnectionState} {s s' : ConnectionState}
    (shape : states = rounds.flatMap round ++ soFar s) (moves : s' = s ∨ s' ∈ s.next) :
    ∃ rounds' : List Bool,
      states ++ (if s' = s then [] else [s']) = rounds'.flatMap round ++ soFar s' := by
  subst shape
  rcases moves with same | next
  · exact ⟨rounds, by simp [same]⟩
  · cases s with
    | disconnected =>
      obtain rfl : s' = .connecting := by simpa [ConnectionState.next] using next
      exact ⟨rounds, by simp [soFar]⟩
    | connected =>
      obtain rfl : s' = .disconnected := by simpa [ConnectionState.next] using next
      exact ⟨rounds ++ [true], by simp [soFar, round]⟩
    | connecting =>
      have either : s' = .connected ∨ s' = .disconnected := by
        simpa [ConnectionState.next] using next
      rcases either with rfl | rfl
      · exact ⟨rounds, by simp [soFar]⟩
      · exact ⟨rounds ++ [false], by simp [soFar, round]⟩

theorem rounds_prefix (rounds : List Bool) (s : ConnectionState) :
    rounds.flatMap round ++ soFar s <+: (rounds ++ [true]).flatMap round := by
  rw [List.flatMap_append, List.prefix_append_right_inj]
  cases s <;> decide

theorem rounds_head (rounds : List Bool) (s : ConnectionState) :
    ∀ first ∈ (rounds.flatMap round ++ soFar s).head?, first = .connecting := by
  intro first found
  cases rounds with
  | nil => cases s <;> simp_all [soFar]
  | cons connected rest => cases connected <;> simp_all [round]

theorem rounds_chain (rounds : List Bool) (s : ConnectionState) :
    (rounds.flatMap round ++ soFar s).IsChain (· ≠ ·) := by
  induction rounds with
  | nil => cases s <;> decide
  | cons connected rest ih =>
    rw [List.flatMap_cons, List.append_assoc]
    apply List.IsChain.append
    · cases connected <;> decide
    · exact ih
    · -- a round ends disconnected, and what follows begins with an attempt
      intro last ended first found
      have disconnected : last = .disconnected := by cases connected <;> simp_all [round]
      rw [disconnected, rounds_head rest s first found]
      decide

theorem rounds_last (rounds : List Bool) (s : ConnectionState) :
    (rounds.flatMap round ++ soFar s).getLast?.getD .disconnected = s := by
  cases s with
  | connecting | connected => simp [soFar]
  | disconnected =>
    rcases List.eq_nil_or_concat rounds with rfl | ⟨earlier, connected, rfl⟩
    · rfl
    · cases connected <;> simp [soFar, round]

/-! ### What holds of every history -/

structure Sound (h : History) : Prop where
  stands : h.worker.Stands
  rounds : ∃ rounds : List Bool, h.states = rounds.flatMap round ++ soFar h.worker.state
  attempts : ∃ n, h.milestones = .begun :: (List.replicate n [.rested, .begun]).flatten ∧
    h.states.count .connecting = n + 1 ∧ h.worker.reconnects = .ofNat n
  letters : ∀ texts ∈ h.letters, ∃ n, texts = subscribeMessage :: List.replicate n pingMessage
  held : h.worker.state = .connected → h.letters ≠ []

theorem start_sound : start.Sound where
  stands := Or.inl rfl
  rounds := ⟨[], rfl⟩
  attempts := ⟨0, rfl, rfl, rfl⟩
  letters := by
    intro texts member
    cases member
  held := by
    intro connected
    cases connected

/-- A turn begins an attempt exactly where it ends a rest. -/
theorem told_beginnings {w : Worker} {wake : Wake} {r : Worker × List Act}
    (effect : w.Effect wake r) :
    beginnings (statesOf r.2) = (if w.rouses wake then [.begun] else []) ∧
      (statesOf r.2).count .connecting = if w.rouses wake then 1 else 0 := by
  rw [effect.told]
  cases roused : w.rouses wake with
  | true =>
    obtain ⟨connecting, other⟩ := effect.begins.mpr roused
    simp [connecting, Ne.symm other, beginnings]
  | false =>
    split
    · exact ⟨rfl, rfl⟩
    · rename_i moved
      have other : r.1.state ≠ .connecting := by
        intro connecting
        have begun := effect.begins.mp ⟨connecting, fun before => moved (connecting.trans before.symm)⟩
        rw [roused] at begun
        cases begun
      simp [beginnings, other]

theorem after_attempts (t : PushTiming) {h : History} (sound : h.Sound) (wake : Wake) :
    ∃ n, (h.after t wake).milestones = .begun :: (List.replicate n [.rested, .begun]).flatten ∧
      (h.after t wake).states.count .connecting = n + 1 ∧
      (h.after t wake).worker.reconnects = .ofNat n := by
  obtain ⟨n, milestones, entered, counted⟩ := sound.attempts
  have effect := Worker.turn_effect t sound.stands wake
  obtain ⟨begun, connecting⟩ := told_beginnings effect
  have count := effect.count
  simp only [after, List.count_append, begun, connecting, count, milestones, entered, counted]
  cases h.worker.rouses wake with
  | true =>
    refine ⟨n + 1, ?_, rfl, ?_⟩
    · simp [List.replicate_succ']
    · simp [UInt64.ofNat_add]
  | false => exact ⟨n, by simp, rfl, rfl⟩

theorem after_letters (t : PushTiming) {h : History} (sound : h.Sound) (wake : Wake) :
    (∀ texts ∈ (h.after t wake).letters,
      ∃ n, texts = subscribeMessage :: List.replicate n pingMessage) ∧
      ((h.after t wake).worker.state = .connected → (h.after t wake).letters ≠ []) := by
  have effect := Worker.turn_effect t sound.stands wake
  have sent := effect.sent
  simp only [after, sent]
  cases opened : h.worker.opens wake with
  | true =>
    simp only [↓reduceIte, deliver, List.nil_append]
    refine ⟨?_, fun _ => List.cons_ne_nil _ _⟩
    intro texts member
    rcases List.mem_cons.mp member with newest | older
    · exact ⟨0, newest⟩
    · exact sound.letters texts older
  | false =>
    have before (connected : (h.worker.turn t wake).1.state = .connected) :
        h.worker.state = .connected := by
      by_contra other
      have new := effect.connects.mp ⟨connected, other⟩
      rw [opened] at new
      cases new
    cases letters : h.letters with
    | nil =>
      have unpinged : h.worker.pings wake = false := by
        -- a worker that listens has a connection
        by_contra pinged
        have listens : h.worker.phase = .listening := by simp_all [Worker.pings]
        rcases sound.stands with coherent | ⟨finished, _⟩
        · exact sound.held (by rw [coherent, listens]; rfl) letters
        · rw [listens] at finished
          cases finished
      simp only [unpinged]
      refine ⟨?_, ?_⟩
      · intro texts member
        cases member
      · intro connected
        exact absurd letters (sound.held (before connected))
    | cons newest older =>
      refine ⟨?_, fun _ => List.cons_ne_nil _ _⟩
      intro texts member
      rcases List.mem_cons.mp member with same | old
      · obtain ⟨n, shape⟩ := sound.letters newest (by simp [letters])
        cases pinged : h.worker.pings wake with
        | true => exact ⟨n + 1, by simp [same, pinged, shape, List.replicate_succ']⟩
        | false => exact ⟨n, by simp [same, pinged, shape]⟩
      · exact sound.letters texts (by simp [letters, old])

theorem after_sound (t : PushTiming) {h : History} (sound : h.Sound) (wake : Wake) :
    (h.after t wake).Sound := by
  have effect := Worker.turn_effect t sound.stands wake
  obtain ⟨letters, held⟩ := after_letters t sound wake
  refine ⟨effect.stands, ?_, after_attempts t sound wake, letters, held⟩
  obtain ⟨rounds, shape⟩ := sound.rounds
  have told := effect.told
  simp only [after, told]
  exact rounds_after shape effect.moves

theorem run_sound (t : PushTiming) (script : List Occurrence) : (run t script).Sound := by
  have kept (h : History) (sound : h.Sound) : (script.foldl (follow t) h).Sound := by
    induction script generalizing h with
    | nil => exact sound
    | cons occurrence rest ih =>
      apply ih
      cases occurrence with
      | wake wake => exact after_sound t sound wake
      | desertion => exact ⟨sound.stands, sound.rounds, sound.attempts, sound.letters, sound.held⟩
  exact kept start start_sound

/-- A history as it should be. Its states are rounds, the last of which may be under way; the state
that can be watched is the one told last, and a turn tells the state just if it changes it. Attempts
and ends of rests alternate, and their count is the worker's. Each connection was given the
subscription first, and just once. -/
structure Orderly (t : PushTiming) (h : History) : Prop where
  rounds : ∃ rounds : List Bool, h.states <+: rounds.flatMap round
  changing : h.states.IsChain (· ≠ ·)
  watched : h.worker.state = h.states.getLast?.getD .disconnected
  told : ∀ wake, statesOf (h.worker.turn t wake).2 =
    if (h.worker.turn t wake).1.state = h.worker.state then []
    else [(h.worker.turn t wake).1.state]
  attempts : ∃ n, h.milestones = .begun :: (List.replicate n [.rested, .begun]).flatten ∧
    h.states.count .connecting = n + 1 ∧ h.worker.reconnects = .ofNat n ∧
    (n < UInt64.size → h.states.count .connecting = h.worker.reconnects.toNat + 1)
  subscribed : ∀ texts ∈ h.letters,
    texts.head? = some subscribeMessage ∧ texts.count subscribeMessage = 1

theorem subscribe_ne_ping : subscribeMessage ≠ pingMessage := by decide +kernel

theorem Sound.orderly (t : PushTiming) {h : History} (sound : h.Sound) : h.Orderly t := by
  obtain ⟨rounds, shape⟩ := sound.rounds
  obtain ⟨n, milestones, entered, counted⟩ := sound.attempts
  refine ⟨⟨rounds ++ [true], ?_⟩, ?_, ?_, ?_, ⟨n, milestones, entered, counted, ?_⟩, ?_⟩
  · rw [shape]
    exact rounds_prefix rounds h.worker.state
  · rw [shape]
    exact rounds_chain rounds h.worker.state
  · rw [shape, rounds_last]
  · intro wake
    exact (Worker.turn_effect t sound.stands wake).told
  · intro small
    rw [entered, counted, UInt64.toNat_ofNat_of_lt' small]
  · intro texts member
    obtain ⟨pings, rfl⟩ := sound.letters texts member
    have absent : (List.replicate pings pingMessage).count subscribeMessage = 0 := by
      rw [List.count_replicate, if_neg]
      simpa using subscribe_ne_ping.symm
    exact ⟨rfl, by rw [List.count_cons_self, absent]⟩

def readings (script : List Occurrence) : List Nat :=
  script.filterMap fun
    | .wake (.sent now) => some now
    | _ => none

theorem follow_coherent {t : PushTiming} {h : History} (coherent : h.worker.Coherent)
    (occurrence : Occurrence) (fit : ∀ now ∈ readings [occurrence], t.fitsClock now = true) :
    (h.follow t occurrence).worker.Coherent := by
  cases occurrence with
  | desertion => exact coherent
  | wake wake =>
    rcases h.worker.turn_cases t wake with stepped | ⟨_, now, rfl, unfit, _⟩
    · simp only [follow, after, stepped]
      exact Worker.step_coherent coherent wake
    · rw [fit now List.mem_cons_self] at unfit
      cases unfit

/-- A worker does not break down as long as its clock can be set. -/
theorem run_coherent {t : PushTiming} {script : List Occurrence}
    (fit : ∀ now ∈ readings script, t.fitsClock now = true) :
    (run t script).worker.Coherent := by
  have kept (h : History) (coherent : h.worker.Coherent) :
      (script.foldl (follow t) h).worker.Coherent := by
    induction script generalizing h with
    | nil => exact coherent
    | cons occurrence rest ih =>
      have split : readings (occurrence :: rest) = readings [occurrence] ++ readings rest :=
        List.filterMap_append (l := [occurrence])
      simp only [split, List.forall_mem_append] at fit
      exact ih fit.2 _ (follow_coherent coherent occurrence fit.1)
  exact kept start rfl

/-- A worker breaks down on its first connection if its clock cannot be set there. -/
theorem run_unfit {t : PushTiming} {now : Nat} (unfit : t.fitsClock now = false) :
    let h := run t [.wake .opened, .wake (.sent now)]
    h.worker.phase = .finished ∧ h.worker.state = .connected ∧
      h.states = [.connecting, .connected] := by
  have opened : Worker.start.1.turn t .opened = Worker.start.1.step .opened := by
    simp [Worker.turn, Wake.fits]
  have broken : (Worker.start.1.step .opened).1.turn t (.sent now) =
      (Worker.start.1.step .opened).1.breakDown := by
    rw [Worker.turn, if_pos]
    simp [unfit, Wake.fits, Worker.start, Worker.attempt, Worker.enter, Worker.step]
  simp only [run, List.foldl_cons, List.foldl_nil, follow, after, start, opened, broken]
  exact ⟨rfl, rfl, rfl⟩

theorem fitsClock_of_le {t : PushTiming} {now later : Nat} (fits : t.fitsClock later = true)
    (earlier : now ≤ later) : t.fitsClock now = true := by
  simp only [PushTiming.fitsClock, decide_eq_true_eq] at fits ⊢
  omega

/-- Whatever comes to a worker, its history is orderly. When it has ended it is disconnected, or its
clock had a reading from which it could not be set for the first ping and the worker is connected.
So it always ends disconnected up to some reading exactly if the clock can still be set there. -/
theorem run_orderly_ends_disconnected_iff_pings_fit (t : PushTiming) :
    (∀ script, (run t script).Orderly t) ∧
      (∀ script, (run t script).worker.phase = .finished →
        (run t script).worker.state = .disconnected ∨
          (∃ now ∈ readings script, t.fitsClock now = false) ∧
            (run t script).worker.state = .connected) ∧
      ∀ latest, (∀ script, (∀ now ∈ readings script, now ≤ latest) →
        (run t script).worker.phase = .finished →
          (run t script).worker.state = .disconnected) ↔ t.fitsClock latest = true := by
  have ends (script : List Occurrence) (fit : ∀ now ∈ readings script, t.fitsClock now = true)
      (finished : (run t script).worker.phase = .finished) :
      (run t script).worker.state = .disconnected := by
    rw [run_coherent fit, finished]
    rfl
  refine ⟨fun script => (run_sound t script).orderly t, ?_, ?_⟩
  · intro script finished
    rcases (run_sound t script).stands with coherent | ⟨_, connected⟩
    · exact Or.inl (by rw [coherent, finished]; rfl)
    · refine Or.inr ⟨?_, connected⟩
      by_contra none
      have disconnected := ends script (by simpa using none) finished
      rw [connected] at disconnected
      cases disconnected
  · intro latest
    constructor
    · intro always
      by_contra unfit
      obtain ⟨finished, connected, _⟩ := run_unfit (Bool.eq_false_iff.mpr unfit)
      have disconnected := always _ (by simp [readings]) finished
      rw [connected] at disconnected
      cases disconnected
    · intro fits script bounded finished
      exact ends script (fun now read => fitsClock_of_le fits (bounded now read)) finished

/-- A connection is lost, the next attempt is refused, and the third connection breaks before it is
subscribed to; then the worker is cancelled. -/
theorem third_attempt_cancelled :
    let script : List Occurrence := [.wake .opened, .wake (.sent 1000), .wake .ticked,
      .wake (.sent 2000), .wake (.heard .closed), .wake .rested, .wake .refused, .wake .rested,
      .desertion, .wake .opened, .wake .unsent, .wake .cancelled]
    let h := run {} script
    h.worker.phase = .finished ∧ h.worker.state = .disconnected ∧ h.Orderly {} ∧
      h.states.count .connecting = 3 ∧ h.worker.reconnects = 2 ∧
      h.letters = [[subscribeMessage], [subscribeMessage, pingMessage]] := by
  intro script h
  obtain ⟨orderly, _, ends⟩ := run_orderly_ends_disconnected_iff_pings_fit {}
  have fits : PushTiming.fitsClock {} 2000 = true := by decide
  have bounded : (readings script).all (· ≤ 2000) = true := by decide
  have disconnected := (ends 2000).mpr fits script (by simpa using bounded) (by decide)
  exact ⟨by decide, disconnected, orderly script, by decide, by decide, rfl⟩

/-- Settings that ask for a ping every 2 ^ 64 - 1 seconds: whatever its clock reads, the worker ends
on its first connection, and has told that it is connected. With a ping every 2 ^ 63 - 1 seconds it
does so from the first second of its clock on. -/
theorem overlong_pings_end_connected :
    let never := Settings.pushTiming { keepaliveSecs := 18446744073709551615 }
    let late := Settings.pushTiming { keepaliveSecs := 9223372036854775807 }
    (∀ now,
      let h := run never [.wake .opened, .wake (.sent now)]
      h.worker.phase = .finished ∧ h.worker.state = .connected ∧
        h.states = [.connecting, .connected] ∧
        ∀ wake, h.worker.turn never wake = (h.worker, [])) ∧
      (run late [.wake .opened, .wake (.sent 999999999)]).worker.phase = .listening ∧
      (run late [.wake .opened, .wake (.sent 1000000000)]).worker.phase = .finished := by
  intro never late
  refine ⟨?_, by decide +kernel, by decide +kernel⟩
  intro now h
  have unfit : never.fitsClock now = false := by
    have atOnce : never.fitsClock 0 = false := by decide +kernel
    by_contra fits
    rw [fitsClock_of_le (Bool.of_not_eq_false fits) (Nat.zero_le now)] at atOnce
    cases atOnce
  obtain ⟨finished, connected, states⟩ := run_unfit unfit
  exact ⟨finished, connected, states, Worker.finished_turn finished⟩

end History

end Push

end CodeAtlas
