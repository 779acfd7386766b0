import CodeAtlas.Proofs.SessionRuns

/-!
The requests for a graph that are under way. A session counts them, and shows that it is loading;
the count rises where a request is sent and falls where its end is taken, in whatever order the
ends come. Each call that was sent ends once.
-/
namespace CodeAtlas

inductive Completion.Answers : Completion → Call → Prop where
  | graph (r : GraphRequest) (other : r ≠ .clear) (result : Except Failure Payload) :
      Answers (.graph r result) (.graph r)
  | cleared (result : Except Failure Bool) : Answers (.cleared result) (.graph .clear)
  | stats (result : Except Failure Json) : Answers (.stats result) .stats
  | details (id : String) (result : Except Failure Json) :
      Answers (.details id result) (.details id)
  | paths (source target : String) (maxLength : Nat)
      (result : Except Failure (List (List String))) :
      Answers (.paths result) (.paths source target maxLength)
  | search (query : String) (filters : SearchFilters) (result : Except Failure (List Node)) :
      Answers (.search query result) (.search query filters)
  | artifact (format : ExportFormat) (result : Except Failure Artifact) :
      Answers (.artifact format result) (.artifact format)

theorem complete_answers (c : Call) (reply : Except Failure Reply) :
    (c.complete reply).Answers c := by
  cases c with
  | graph r => cases r <;> constructor <;> simp
  | stats | paths | search | details | artifact => constructor

def callsOf (errands : List Errand) : List Call :=
  errands.filterMap fun
    | .call c => some c
    | _ => none

def graphCalls (calls : List Call) : Nat := calls.countP Call.isGraph

namespace Session

/-- The count rises by the requests for a graph that were sent, and sending one shows as loading. -/
structure Counts (s : Session) (r : Result) : Prop where
  inFlight : r.1.inFlight = s.inFlight + graphCalls (callsOf r.2)
  loading : r.1.store.loading = (s.store.loading || decide (0 < graphCalls (callsOf r.2)))

theorem counts_of_no_graph {s t : Session} {errands : List Errand}
    (inFlight : t.inFlight = s.inFlight) (loading : t.store.loading = s.store.loading)
    (none : graphCalls (callsOf errands) = 0) : s.Counts (t, errands) := by
  constructor
  · simp [inFlight, none]
  · simp [loading, none]

theorem requestGraph_counts (r : GraphRequest) (s : Session) : s.Counts (s.requestGraph r) := by
  by_cases ended : s.tornDown = true
  · simp only [requestGraph, ended, ↓reduceIte]
    exact counts_of_no_graph rfl rfl rfl
  · simp only [requestGraph, ask, ended]
    constructor
    · rfl
    · simp [Store.setLoading, callsOf, graphCalls, Call.isGraph]

theorem ask_counts {c : Call} (other : c.isGraph = false) (s : Session) : s.Counts (s.ask c) := by
  unfold ask
  split
  · exact counts_of_no_graph rfl rfl rfl
  · exact counts_of_no_graph rfl rfl (by simp [callsOf, graphCalls, other])

theorem callsOf_eq_nil {errands : List Errand} (none : ∀ c, .call c ∉ errands) :
    callsOf errands = [] := by
  apply List.filterMap_eq_nil_iff.mpr
  intro e member
  cases e with
  | call c => exact absurd member (none c)
  | openPush | closePush => rfl

theorem perform_counts (s : Session) (a : Action) : s.Counts (s.perform a) := by
  obtain ⟨t, does, settled⟩ := perform_cases s a
  have counts : t.Counts (s.perform a) := by
    generalize s.perform a = result at does
    cases does with
    | requests r => exact requestGraph_counts r t
    | asks c other => exact ask_counts other t
    | sendsNone errands none =>
      exact counts_of_no_graph rfl rfl (by rw [callsOf_eq_nil none]; rfl)
  constructor
  · rw [counts.inFlight, settled.inFlight]
  · rw [counts.loading, settled.loading]

/-! ### Arrivals -/

theorem apply_loading (s : Store) (d : Delta) : (s.apply d).1.loading = s.loading := by
  unfold Store.apply
  split
  · rfl
  · split <;> rfl

theorem hear_counts (s : Session) (e : ConnectionEvent) :
    s.Counts (s.receive (.connection e)) := by
  unfold receive
  split
  · exact counts_of_no_graph rfl rfl rfl
  · cases e with
    | state state => exact counts_of_no_graph rfl rfl rfl
    | push e =>
      cases e with
      | graphUpdated => exact requestGraph_counts .refresh s
      | ignored kind => exact counts_of_no_graph rfl rfl rfl
      | delta d =>
        dsimp only
        split
        · obtain ⟨store, inFlight, _⟩ := forgetMissing_keeps { s with store := (s.store.apply d).1 }
          refine counts_of_no_graph inFlight ?_ rfl
          rw [store, apply_loading]
        · exact counts_of_no_graph rfl (apply_loading s.store d) rfl

theorem complete_graph_counts (s : Session) {k : Completion} {c : Call} (answers : k.Answers c)
    (graph : c.isGraph = true) : (s.complete k).inFlight = s.inFlight - 1 ∧
      (s.complete k).store.loading = decide (0 < s.inFlight - 1) := by
  cases answers with
  | graph r other result =>
    cases result with
    | error why => exact ⟨rfl, rfl⟩
    | ok p =>
      simp only [complete]
      constructor
      · rw [(forgetMissing_keeps _).2.1]
        rfl
      · rw [(forgetMissing_keeps _).1]
        rfl
  | cleared result =>
    cases result with
    | error why => exact ⟨rfl, rfl⟩
    | ok done => cases done <;> exact ⟨rfl, rfl⟩
  | stats | details | paths | search | artifact => cases graph

theorem complete_other_counts (s : Session) {k : Completion} {c : Call} (answers : k.Answers c)
    (other : c.isGraph = false) : (s.complete k).inFlight = s.inFlight ∧
      (s.complete k).store.loading = s.store.loading := by
  cases answers with
  | graph | cleared => cases other
  | stats result => exact ⟨rfl, rfl⟩
  | details id result =>
    simp only [complete]
    split <;> exact ⟨rfl, rfl⟩
  | paths source target maxLength result => cases result <;> exact ⟨rfl, rfl⟩
  | search query filters result => cases result <;> exact ⟨rfl, rfl⟩
  | artifact format result => cases result <;> exact ⟨rfl, rfl⟩

end Session

/-- A session, and the calls that it sent whose ends it has not taken yet. -/
structure Desk where
  session : Session
  pending : List Call

namespace Desk

def after (r : Session.Result) (pending : List Call) : Desk := ⟨r.1, pending ++ callsOf r.2⟩

inductive Step : Desk → Desk → Prop where
  | act (d : Desk) (a : Session.Action) : Step d (after (d.session.perform a) d.pending)
  | hear (d : Desk) (e : ConnectionEvent) :
      Step d (after (d.session.receive (.connection e)) d.pending)
  | finish (d : Desk) (c : Call) (k : Completion) (sent : c ∈ d.pending) (answers : k.Answers c) :
      Step d (after (d.session.receive (.completed k)) (d.pending.erase c))

inductive Reachable (limits : QueryLimits) : Desk → Prop where
  | start : Reachable limits ⟨{ limits }, []⟩
  | step {d e : Desk} (reached : Reachable limits d) (step : Step d e) : Reachable limits e

/-- The count is that of the pending requests, and loading shows just while there are some. -/
structure Balanced (d : Desk) : Prop where
  counted : d.session.inFlight = graphCalls d.pending
  loading : d.session.store.loading = decide (0 < d.session.inFlight)

theorem Balanced.after {d : Desk} (balanced : d.Balanced) {r : Session.Result}
    (counts : d.session.Counts r) : (after r d.pending).Balanced := by
  have inFlight := counts.inFlight
  have pending : graphCalls (Desk.after r d.pending).pending =
      graphCalls d.pending + graphCalls (callsOf r.2) := List.countP_append
  constructor
  · rw [pending, ← balanced.counted]
    exact inFlight
  · have loading := counts.loading
    rw [balanced.loading, ← Bool.decide_or] at loading
    simp only [Desk.after, loading, inFlight, decide_eq_decide]
    omega

theorem Balanced.counted_pos {d : Desk} (balanced : d.Balanced) {c : Call} (sent : c ∈ d.pending)
    (graph : c.isGraph = true) : 0 < d.session.inFlight := by
  rw [balanced.counted]
  exact List.countP_pos_iff.mpr ⟨c, sent, graph⟩

theorem graphCalls_erase {c : Call} {pending : List Call} (sent : c ∈ pending) :
    graphCalls (pending.erase c) = graphCalls pending - if c.isGraph then 1 else 0 := by
  have counted := (List.perm_cons_erase sent).countP_eq Call.isGraph
  rw [List.countP_cons] at counted
  unfold graphCalls
  omega

theorem Balanced.finish {d : Desk} (balanced : d.Balanced) (live : d.session.tornDown = false)
    {c : Call} {k : Completion} (sent : c ∈ d.pending) (answers : k.Answers c) :
    (Desk.after (d.session.receive (.completed k)) (d.pending.erase c)).Balanced := by
  have taken : Desk.after (d.session.receive (.completed k)) (d.pending.erase c) =
      ⟨d.session.complete k, d.pending.erase c⟩ := by
    simp [Session.receive, live, Session.quiet, Desk.after, callsOf]
  have left := graphCalls_erase sent
  rw [taken]
  cases graph : c.isGraph with
  | true =>
    obtain ⟨inFlight, loading⟩ := d.session.complete_graph_counts answers graph
    constructor
    · -- count and pending requests fall together, so the subtraction never stops at zero
      simp only [inFlight, left, graph, balanced.counted, ↓reduceIte]
    · simp only [inFlight, loading]
  | false =>
    obtain ⟨inFlight, loading⟩ := d.session.complete_other_counts answers graph
    constructor
    · simp [inFlight, left, graph, balanced.counted]
    · simp only [inFlight, loading, balanced.loading]

/-- A session that is over stays over, so one that is not was balanced before the step. -/
theorem step_balanced {d e : Desk} (step : Step d e)
    (balanced : d.session.tornDown = false → d.Balanced) (live : e.session.tornDown = false) :
    e.Balanced := by
  -- nothing is claimed of a session that is over, whatever its calls still bring
  cases ended : d.session.tornDown with
  | false =>
    cases step with
    | act a => exact (balanced ended).after (Session.perform_counts d.session a)
    | hear event => exact (balanced ended).after (Session.hear_counts d.session event)
    | finish c k sent answers => exact (balanced ended).finish ended sent answers
  | true =>
    have still : e.session.tornDown = true := by
      cases step with
      | act a => exact Session.perform_stays_over ended a
      | hear event => exact (congrArg (·.1.tornDown) (Session.receive_over ended _)).trans ended
      | finish c k sent answers =>
        exact (congrArg (·.1.tornDown) (Session.receive_over ended _)).trans ended
    rw [still] at live
    cases live

theorem reachable_balanced {limits : QueryLimits} {d : Desk} (reached : Reachable limits d)
    (live : d.session.tornDown = false) : d.Balanced := by
  induction reached with
  | start => exact ⟨rfl, rfl⟩
  | step reached step ih => exact step_balanced step ih live

/-- Of a session that is not over: the count is the number of requests for a graph that were sent
and have not come to their end, loading shows exactly while there is one, and each end of one finds
a count that it can lower. -/
theorem reachable_counts_pending_requests {limits : QueryLimits} {d : Desk}
    (reached : Reachable limits d) (live : d.session.tornDown = false) :
    d.session.inFlight = graphCalls d.pending ∧
      (d.session.store.loading = true ↔ 0 < graphCalls d.pending) ∧
      ∀ c ∈ d.pending, c.isGraph = true → ∀ k : Completion, k.Answers c →
        (d.session.complete k).inFlight + 1 = d.session.inFlight := by
  have balanced := reachable_balanced reached live
  refine ⟨balanced.counted, ?_, ?_⟩
  · rw [balanced.loading, balanced.counted, decide_eq_true_eq]
  · intro c sent graph k answers
    have positive := balanced.counted_pos sent graph
    rw [(d.session.complete_graph_counts answers graph).1]
    omega

/-- Two refreshes, one of them pushed, and a clearing that fails before either ends. -/
theorem refreshes_pending_behind_clearing : ∃ d : Desk, Reachable {} d ∧
    d.session.tornDown = false ∧ d.pending = [.graph .refresh, .graph .refresh] ∧
    d.session.inFlight = 2 ∧ d.session.store.loading = true := by
  have asked := Reachable.start.step (.act ⟨{ limits := {} }, []⟩ .refresh)
  have pushed := asked.step (.hear _ (.push .graphUpdated))
  have clearing := pushed.step (.act _ .clear)
  have failed := clearing.step (.finish _ (.graph .clear) _ (by decide)
    (complete_answers _ (.error (.backend "down"))))
  obtain ⟨counted, loading, _⟩ := reachable_counts_pending_requests failed rfl
  exact ⟨_, failed, rfl, rfl, counted, loading.mpr (by decide)⟩

end Desk

end CodeAtlas
