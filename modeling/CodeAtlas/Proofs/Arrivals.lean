import CodeAtlas.Proofs.SessionRuns

/-!
What arrives at a session, one message after the other. The graph depends on the arrivals alone and
on their order, not on what was asked when: whole graphs replace it, deltas change it, and all else
leaves it. A failure leaves everything that was there before it, apart from what reports it.
-/
namespace CodeAtlas

def Message.reshape (g : Snapshot) : Message → Snapshot
  | .completed (.graph _ (.ok p)) => .ofPayload p
  | .completed (.cleared (.ok true)) => .empty
  | .connection (.push (.delta d)) => (Store.apply d { snapshot := g }).1.snapshot
  | _ => g

/-- Whether a call ended in a failure. A backend that declines to clear the graph has failed to. -/
def Completion.failed : Completion → Bool
  | .graph _ (.ok _) | .cleared (.ok true) | .stats (.ok _) | .details _ (.ok _) | .paths (.ok _)
  | .search _ (.ok _) | .artifact _ (.ok _) => false
  | _ => true

/-- All that a failure may change, by the kind of what failed. -/
def Completion.Spoils (s t : Session) : Completion → Prop
  | .graph .. | .cleared _ => ∃ why r inFlight loading,
      t = { s with
        store := { s.store with error := some why, loading }, failed := some r, inFlight }
  | .paths _ | .search .. | .artifact .. =>
      ∃ why, t = { s with store := { s.store with error := some why } }
  | .stats _ => t = { s with stats := none }
  | .details .. => t = s ∨ t = { s with details := none }

namespace Session

structure Kept (s t : Session) : Prop where
  snapshot : t.store.snapshot = s.store.snapshot
  revision : t.store.revision = s.store.revision
  criteria : t.criteria = s.criteria
  selection : t.selection = s.selection
  paths : t.paths = s.paths
  found : t.found = s.found
  artifact : t.artifact = s.artifact

theorem kept_of_spoils {s t : Session} {c : Completion} (spoils : c.Spoils s t) : s.Kept t := by
  cases c with
  | graph | cleared =>
    obtain ⟨why, r, inFlight, loading, eq⟩ := spoils
    subst eq
    exact ⟨rfl, rfl, rfl, rfl, rfl, rfl, rfl⟩
  | paths | search | artifact =>
    obtain ⟨why, eq⟩ := spoils
    subst eq
    exact ⟨rfl, rfl, rfl, rfl, rfl, rfl, rfl⟩
  | stats =>
    rw [spoils]
    exact ⟨rfl, rfl, rfl, rfl, rfl, rfl, rfl⟩
  | details =>
    rcases spoils with eq | eq
    · rw [eq]
      exact ⟨rfl, rfl, rfl, rfl, rfl, rfl, rfl⟩
    · rw [eq]
      exact ⟨rfl, rfl, rfl, rfl, rfl, rfl, rfl⟩

theorem complete_spoils (s : Session) {c : Completion} (failed : c.failed = true) :
    c.Spoils s (s.complete c) := by
  cases c with
  | graph r result =>
    cases result with
    | error why => exact ⟨_, r, _, _, rfl⟩
    | ok p => cases failed
  | cleared result =>
    cases result with
    | error why => exact ⟨_, .clear, _, _, rfl⟩
    | ok done =>
      cases done with
      | false => exact ⟨_, .clear, _, _, rfl⟩
      | true => cases failed
  | stats result =>
    cases result with
    | error why => rfl
    | ok value => cases failed
  | details id result =>
    cases result with
    | error why =>
      simp only [complete]
      split
      · exact Or.inr rfl
      · exact Or.inl rfl
    | ok value => cases failed
  | paths result =>
    cases result with
    | error why => exact ⟨_, rfl⟩
    | ok paths => cases failed
  | search query result =>
    cases result with
    | error why => exact ⟨_, rfl⟩
    | ok found => cases failed
  | artifact format result =>
    cases result with
    | error why => exact ⟨_, rfl⟩
    | ok a => cases failed

/-! ### The graph -/

theorem apply_snapshot (s : Store) (d : Delta) :
    (s.apply d).1.snapshot = (Store.apply d { snapshot := s.snapshot }).1.snapshot := by
  have objection : s.objection? d = Store.objection? { snapshot := s.snapshot } d := by
    cases d <;> rfl
  unfold Store.apply
  rw [objection]
  split
  · rfl
  · dsimp only
    split <;> rfl

theorem complete_effect (s : Session) (c : Completion) :
    (s.complete c).store.snapshot = Message.reshape s.store.snapshot (.completed c) ∧
      (s.complete c).tornDown = s.tornDown := by
  cases c with
  | graph r result =>
    cases result with
    | error why => exact ⟨rfl, rfl⟩
    | ok p =>
      obtain ⟨store, _, tornDown⟩ := forgetMissing_keeps { s.finishGraphRequest with
        store := (s.finishGraphRequest.store.replace (.ofPayload p)).setError none, failed := none }
      exact ⟨congrArg (·.snapshot) store, tornDown⟩
  | cleared result =>
    cases result with
    | error why => exact ⟨rfl, rfl⟩
    | ok done => cases done <;> exact ⟨rfl, rfl⟩
  | stats result => exact ⟨rfl, rfl⟩
  | details id result =>
    simp only [complete]
    split <;> exact ⟨rfl, rfl⟩
  | paths result => cases result <;> exact ⟨rfl, rfl⟩
  | search query result => cases result <;> exact ⟨rfl, rfl⟩
  | artifact format result => cases result <;> exact ⟨rfl, rfl⟩

theorem receive_effect {s : Session} (live : s.tornDown = false) (m : Message) :
    (s.receive m).1.store.snapshot = m.reshape s.store.snapshot ∧
      (s.receive m).1.tornDown = false := by
  rw [← live]
  unfold receive
  rw [if_neg (by simp [live])]
  cases m with
  | completed c => exact complete_effect s c
  | connection e =>
    cases e with
    | state state => exact ⟨rfl, rfl⟩
    | push e =>
      cases e with
      | graphUpdated =>
        exact ⟨(requestGraph_store .refresh s).1, requestGraph_tornDown .refresh s⟩
      | ignored kind => exact ⟨rfl, rfl⟩
      | delta d =>
        dsimp only [quiet, Message.reshape]
        rw [← apply_snapshot]
        split
        · obtain ⟨store, _, tornDown⟩ := forgetMissing_keeps { s with store := (s.store.apply d).1 }
          exact ⟨congrArg (·.snapshot) store, tornDown⟩
        · exact ⟨rfl, rfl⟩

theorem receiveAll_session (messages : List Message) (s : Session) :
    (s.receiveAll messages).1 = messages.foldl (fun s m => (s.receive m).1) s := by
  -- the errands gathered so far do not matter to the session
  unfold receiveAll
  exact (List.foldl_hom Prod.fst fun _ _ => rfl).symm

theorem receiveAll_over {s : Session} (ended : s.tornDown = true) (messages : List Message) :
    (s.receiveAll messages).1 = s := by
  rw [receiveAll_session]
  induction messages with
  | nil => rfl
  | cons m rest ih =>
    rw [List.foldl_cons, receive_over ended]
    exact ih

theorem receiveAll_snapshot {s : Session} (live : s.tornDown = false) (messages : List Message) :
    (s.receiveAll messages).1.store.snapshot =
      messages.foldl Message.reshape s.store.snapshot := by
  rw [receiveAll_session]
  induction messages generalizing s with
  | nil => rfl
  | cons m rest ih =>
    obtain ⟨snapshot, still⟩ := receive_effect live m
    rw [List.foldl_cons, List.foldl_cons, ← snapshot]
    exact ih still

/-! ### Actions and arrivals in turn -/

inductive Event where
  | act (a : Action)
  | pump (messages : List Message)

def Event.messages : Event → List Message
  | .act _ => []
  | .pump messages => messages

def take (s : Session) : Event → Session
  | .act a => (s.perform a).1
  | .pump messages => (s.receiveAll messages).1

def follow (s : Session) (events : List Event) : Session := events.foldl take s

theorem take_stays_over {s : Session} (ended : s.tornDown = true) (e : Event) :
    (s.take e).tornDown = true := by
  cases e with
  | act a => exact perform_stays_over ended a
  | pump messages => exact (congrArg (·.tornDown) (receiveAll_over ended messages)).trans ended

theorem live_before {s : Session} {events : List Event}
    (live : (s.follow events).tornDown = false) : s.tornDown = false := by
  induction events generalizing s with
  | nil => exact live
  | cons e rest ih =>
    -- the way back: had the session been over here, it would be over after the next event
    have next : (s.take e).tornDown = false := ih live
    cases ended : s.tornDown with
    | false => rfl
    | true =>
      rw [take_stays_over ended e] at next
      cases next

theorem take_snapshot {s : Session} (live : s.tornDown = false) (e : Event) :
    (s.take e).store.snapshot = e.messages.foldl Message.reshape s.store.snapshot := by
  cases e with
  | act a => exact perform_snapshot s a
  | pump messages => exact receiveAll_snapshot live messages

theorem follow_snapshot {s : Session} {events : List Event}
    (live : (s.follow events).tornDown = false) : (s.follow events).store.snapshot =
      (events.flatMap Event.messages).foldl Message.reshape s.store.snapshot := by
  induction events generalizing s with
  | nil => rfl
  | cons e rest ih =>
    have start : s.tornDown = false := live_before live
    rw [List.flatMap_cons, List.foldl_append, ← take_snapshot start]
    exact ih live

/-- Of a session that is not over: its graph is the fold of all arrivals in their order, whatever
the user did between them. A completion that failed asks for nothing more, changes only what its
kind may change, and so keeps graph, revision, criteria, selection, paths, finds and artifact. -/
theorem graph_folds_arrivals_and_outlasts_failures (s : Session) (events : List Event)
    (live : (s.follow events).tornDown = false) :
    let t := s.follow events
    t.store.snapshot = (events.flatMap Event.messages).foldl Message.reshape s.store.snapshot ∧
      ∀ c : Completion, c.failed = true →
        (t.receive (.completed c)).2 = [] ∧ c.Spoils t (t.receive (.completed c)).1 ∧
          t.Kept (t.receive (.completed c)).1 := by
  intro t
  refine ⟨follow_snapshot live, ?_⟩
  intro c failed
  have taken : t.receive (.completed c) = (t.complete c, []) := by
    simp only [receive, t, live]
    rfl
  have spoils := t.complete_spoils failed
  rw [taken]
  exact ⟨rfl, spoils, kept_of_spoils spoils⟩

/-- A refresh that was answered late wins over a delta that came before it, and two failures
between them do no harm. -/
theorem late_refresh_wins :
    let node (id : String) : Node := { id, kind := .file }
    let early : Payload := ⟨[node "a", node "b"], [⟨.bare "a", .bare "b", .calls⟩]⟩
    let late : Payload := ⟨[node "c"], []⟩
    let events : List Event := [.act .refresh, .act .refresh,
      .pump [.completed (.graph .refresh (.ok early)),
        .connection (.push (.delta (.nodeAdded (node "d"))))],
      .act (.prune "a"),
      .pump [.completed (.graph (.prune "a" 1) (.error (.backend "down"))),
        .completed (.cleared (.ok false)), .completed (.graph .refresh (.ok late))]]
    let t := follow {} events
    t.tornDown = false ∧ t.store.snapshot = Snapshot.ofPayload late ∧
      t.Kept (t.receive (.completed (.cleared (.ok false)))).1 := by
  intro node early late events t
  have live : t.tornDown = false := by decide +kernel
  obtain ⟨folded, outlasts⟩ := graph_folds_arrivals_and_outlasts_failures {} events live
  exact ⟨live, folded, (outlasts (.cleared (.ok false)) rfl).2.2⟩

end Session

end CodeAtlas
