import CodeAtlas.Session

/-!
What the user can do in a session, as one type, with what all of it has in common: no action
changes the graph, and a session that is over stays over.
-/
namespace CodeAtlas

def Call.isGraph : Call → Bool
  | .graph _ => true
  | _ => false

namespace Session

inductive Action where
  | setCriteria (criteria : Criteria)
  | refresh
  | clear
  | prune (id : String)
  | subgraph (id : String) (options : SubgraphOptions)
  | retry
  | dismissError
  | loadStats
  | select (id : Option String)
  | hover (id : Option String)
  | findPaths (source target : String)
  | clearPaths
  | search (query : String)
  | exportFromServer (format : ExportFormat)
  | takeArtifact
  | connect
  | teardown

def perform (s : Session) : Action → Result
  | .setCriteria criteria => (s.setCriteria criteria).quiet
  | .refresh => s.refresh
  | .clear => s.clear
  | .prune id => s.prune id
  | .subgraph id options => s.subgraph id options
  | .retry => s.retry
  | .dismissError => s.dismissError.quiet
  | .loadStats => s.loadStats
  | .select id => s.select id
  | .hover id => (s.hover id).quiet
  | .findPaths source target => s.findPaths source target
  | .clearPaths => s.clearPaths.quiet
  | .search query => s.search query
  | .exportFromServer format => s.exportFromServer format
  | .takeArtifact => s.takeArtifact.1.quiet
  | .connect => s.connect
  | .teardown => s.teardown

/-- What an action never sets by itself: the graph, its revision and its loading flag, the count of
requests and, while the session goes on, the state of the connection. A session that is over stays
over. -/
structure Settled (s t : Session) : Prop where
  snapshot : t.store.snapshot = s.store.snapshot
  revision : t.store.revision = s.store.revision
  loading : t.store.loading = s.store.loading
  inFlight : t.inFlight = s.inFlight
  ended : s.tornDown = true → t.tornDown = true
  shown : t.tornDown = false → t.connectionState = s.connectionState

theorem settled_refl (s : Session) : s.Settled s := ⟨rfl, rfl, rfl, rfl, id, fun _ => rfl⟩

/-- What an action can do, once the session around it is settled: ask for another graph, send some
other call, or send no call at all. -/
inductive Does (t : Session) : Result → Prop where
  | requests (r : GraphRequest) : Does t (t.requestGraph r)
  | asks (c : Call) (other : c.isGraph = false) : Does t (t.ask c)
  | sendsNone (errands : List Errand) (none : ∀ c, .call c ∉ errands) : Does t (t, errands)

theorem does_quiet (t : Session) : t.Does t.quiet := .sendsNone [] (by simp)

theorem closing_sends_none (o : Option Nat) (c : Call) :
    .call c ∉ (o.map Errand.closePush).toList := by
  cases o <;> simp

theorem perform_cases (s : Session) (a : Action) : ∃ t, t.Does (s.perform a) ∧ s.Settled t := by
  cases a with
  | setCriteria | dismissError | hover | clearPaths | takeArtifact =>
    exact ⟨_, does_quiet _, ⟨rfl, rfl, rfl, rfl, fun ended => ended, fun _ => rfl⟩⟩
  | refresh | clear | prune | subgraph => exact ⟨s, .requests _, settled_refl s⟩
  | retry =>
    simp only [perform, retry, tryAgain]
    split
    · exact ⟨_, .requests _, ⟨rfl, rfl, rfl, rfl, fun ended => ended, fun _ => rfl⟩⟩
    · exact ⟨s, does_quiet s, settled_refl s⟩
  | loadStats | findPaths | exportFromServer => exact ⟨s, .asks _ rfl, settled_refl s⟩
  | select id =>
    simp only [perform, select]
    split
    · exact ⟨s, does_quiet s, settled_refl s⟩
    · cases id with
      | none => exact ⟨_, does_quiet _, ⟨rfl, rfl, rfl, rfl, fun ended => ended, fun _ => rfl⟩⟩
      | some id => exact ⟨_, .asks _ rfl, ⟨rfl, rfl, rfl, rfl, fun ended => ended, fun _ => rfl⟩⟩
  | search query =>
    simp only [perform, search]
    split
    · exact ⟨_, does_quiet _, ⟨rfl, rfl, rfl, rfl, fun ended => ended, fun _ => rfl⟩⟩
    · exact ⟨s, .asks _ rfl, settled_refl s⟩
  | connect =>
    simp only [perform, connect]
    split
    · exact ⟨s, does_quiet s, settled_refl s⟩
    · refine ⟨_, .sendsNone _ ?_, ⟨rfl, rfl, rfl, rfl, fun ended => ended, fun _ => rfl⟩⟩
      intro c member
      rcases List.mem_append.mp member with closing | opening
      · exact closing_sends_none _ c closing
      · simp at opening
  | teardown =>
    simp only [perform, teardown]
    split
    · exact ⟨s, does_quiet s, settled_refl s⟩
    · exact ⟨_, .sendsNone _ (closing_sends_none _),
        ⟨rfl, rfl, rfl, rfl, fun _ => rfl, fun live => Bool.noConfusion live⟩⟩

theorem ask_session (c : Call) (s : Session) : (s.ask c).1 = s := by
  unfold ask
  split <;> rfl

theorem ask_over {s : Session} (ended : s.tornDown = true) (c : Call) : s.ask c = (s, []) := by
  simp [ask, ended, quiet]

theorem requestGraph_over {s : Session} (ended : s.tornDown = true) (r : GraphRequest) :
    s.requestGraph r = (s, []) := by
  simp [requestGraph, ended, quiet]

theorem requestGraph_live {s : Session} (live : s.tornDown = false) (r : GraphRequest) :
    s.requestGraph r =
      ({ s with inFlight := s.inFlight + 1, store := s.store.setLoading true },
        [.call (.graph r)]) := by
  simp [requestGraph, ask, live]

theorem requestGraph_store (r : GraphRequest) (s : Session) :
    (s.requestGraph r).1.store.snapshot = s.store.snapshot ∧
      (s.requestGraph r).1.store.revision = s.store.revision := by
  unfold requestGraph
  split
  · exact ⟨rfl, rfl⟩
  · rw [ask_session]
    exact ⟨rfl, rfl⟩

theorem requestGraph_tornDown (r : GraphRequest) (s : Session) :
    (s.requestGraph r).1.tornDown = s.tornDown := by
  unfold requestGraph
  split
  · rfl
  · rw [ask_session]

theorem perform_store (s : Session) (a : Action) :
    (s.perform a).1.store.snapshot = s.store.snapshot ∧
      (s.perform a).1.store.revision = s.store.revision := by
  obtain ⟨t, does, settled⟩ := perform_cases s a
  rw [← settled.snapshot, ← settled.revision]
  generalize s.perform a = result at does
  cases does with
  | requests r => exact requestGraph_store r t
  | asks c other => rw [ask_session]; exact ⟨rfl, rfl⟩
  | sendsNone errands none => exact ⟨rfl, rfl⟩

theorem perform_snapshot (s : Session) (a : Action) :
    (s.perform a).1.store.snapshot = s.store.snapshot := (perform_store s a).1

theorem perform_stays_over {s : Session} (ended : s.tornDown = true) (a : Action) :
    (s.perform a).1.tornDown = true := by
  obtain ⟨t, does, settled⟩ := perform_cases s a
  have still := settled.ended ended
  generalize s.perform a = result at does
  cases does with
  | requests r => rw [requestGraph_tornDown, still]
  | asks c other => rw [ask_session, still]
  | sendsNone errands none => exact still

theorem receive_over {s : Session} (ended : s.tornDown = true) (m : Message) :
    s.receive m = s.quiet := by
  simp [receive, ended]

theorem receive_completed {s : Session} (live : s.tornDown = false) (k : Completion) :
    (s.receive (.completed k)).1 = s.complete k := by
  simp [receive, live, quiet]

/-- A node that is gone takes its place in the selection with it, and nothing else. -/
theorem forgetMissing_cases (s : Session) :
    ∃ selection details, s.forgetMissing = { s with selection, details } := by
  simp only [forgetMissing]
  split <;> split <;> exact ⟨_, _, rfl⟩

theorem forgetMissing_keeps (s : Session) : s.forgetMissing.store = s.store ∧
    s.forgetMissing.inFlight = s.inFlight ∧ s.forgetMissing.tornDown = s.tornDown := by
  simp only [forgetMissing]
  split <;> split <;> exact ⟨rfl, rfl, rfl⟩

end Session

end CodeAtlas
