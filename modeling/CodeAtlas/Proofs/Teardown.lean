import CodeAtlas.Proofs.Arrivals
import CodeAtlas.Rehearsal.Sitting

/-!
The end of a session is final. Every action and every arrival meets the check that the session is
still on, so that after the end nothing is asked of the world any more, and of what was there only
the user's own choices still change: the criteria, the selection, and what they put away.
-/
namespace CodeAtlas

namespace Session

def meet (s : Session) : Event → Result
  | .act a => s.perform a
  | .pump messages => s.receiveAll messages

def errands (s : Session) : List Event → List Errand
  | [] => []
  | e :: rest => (s.meet e).2 ++ (s.meet e).1.errands rest

theorem meet_session (s : Session) (e : Event) : (s.meet e).1 = s.take e := by
  cases e <;> rfl

structure Frozen (s t : Session) : Prop where
  ended : t.tornDown = true
  snapshot : t.store.snapshot = s.store.snapshot
  revision : t.store.revision = s.store.revision
  loading : t.store.loading = s.store.loading
  stats : t.stats = s.stats
  connection : t.connection = s.connection
  connectionState : t.connectionState = s.connectionState

theorem frozen_refl {s : Session} (ended : s.tornDown = true) : s.Frozen s :=
  ⟨ended, rfl, rfl, rfl, rfl, rfl, rfl⟩

theorem Frozen.trans {s t u : Session} (first : s.Frozen t) (second : t.Frozen u) : s.Frozen u where
  ended := second.ended
  snapshot := second.snapshot.trans first.snapshot
  revision := second.revision.trans first.revision
  loading := second.loading.trans first.loading
  stats := second.stats.trans first.stats
  connection := second.connection.trans first.connection
  connectionState := second.connectionState.trans first.connectionState

theorem connect_over {s : Session} (ended : s.tornDown = true) : s.connect = (s, []) := by
  simp [connect, ended, quiet]

theorem teardown_over {s : Session} (ended : s.tornDown = true) : s.teardown = (s, []) := by
  simp [teardown, ended, quiet]

/-- Nothing is asked, and all that the end fixes is as it was. -/
def Idle (s : Session) (r : Result) : Prop := s.Frozen r.1 ∧ r.2 = []

theorem idle_of_eq {s : Session} (ended : s.tornDown = true) {r : Result} (same : r = (s, [])) :
    s.Idle r := by
  rw [same]
  exact ⟨frozen_refl ended, rfl⟩

theorem Frozen.ask {s t : Session} (frozen : s.Frozen t) (c : Call) : s.Idle (t.ask c) := by
  rw [ask_over frozen.ended]
  exact ⟨frozen, rfl⟩

theorem Frozen.requestGraph {s t : Session} (frozen : s.Frozen t) (r : GraphRequest) :
    s.Idle (t.requestGraph r) := by
  rw [requestGraph_over frozen.ended]
  exact ⟨frozen, rfl⟩

theorem perform_over {s : Session} (ended : s.tornDown = true) (a : Action) :
    s.Idle (s.perform a) := by
  have same := frozen_refl ended
  cases a with
  | setCriteria | dismissError | hover | clearPaths | takeArtifact =>
    exact ⟨⟨ended, rfl, rfl, rfl, rfl, rfl, rfl⟩, rfl⟩
  | refresh | clear | prune | subgraph => exact same.requestGraph _
  | loadStats | findPaths | exportFromServer => exact same.ask _
  | connect => exact idle_of_eq ended (connect_over ended)
  | teardown => exact idle_of_eq ended (teardown_over ended)
  | retry =>
    simp only [perform, retry, tryAgain]
    split
    · -- what failed last is forgotten even so
      refine Frozen.requestGraph ?_ _
      exact ⟨ended, rfl, rfl, rfl, rfl, rfl, rfl⟩
    · exact idle_of_eq ended rfl
  | select id =>
    simp only [perform, select]
    split
    · exact idle_of_eq ended rfl
    · cases id with
      | none => exact ⟨⟨ended, rfl, rfl, rfl, rfl, rfl, rfl⟩, rfl⟩
      | some id =>
        refine Frozen.ask ?_ _
        exact ⟨ended, rfl, rfl, rfl, rfl, rfl, rfl⟩
  | search query =>
    simp only [perform, search]
    split
    · exact ⟨⟨ended, rfl, rfl, rfl, rfl, rfl, rfl⟩, rfl⟩
    · exact same.ask _

theorem receiveAll_quiet {s : Session} (ended : s.tornDown = true) (messages : List Message) :
    s.receiveAll messages = (s, []) := by
  unfold receiveAll
  induction messages with
  | nil => rfl
  | cons m rest ih =>
    rw [List.foldl_cons]
    simp only [receive_over ended, quiet, List.append_nil]
    exact ih

theorem meet_over {s : Session} (ended : s.tornDown = true) (e : Event) :
    s.Idle (s.meet e) := by
  cases e with
  | act a => exact perform_over ended a
  | pump messages => exact idle_of_eq ended (receiveAll_quiet ended messages)

theorem follow_over {s : Session} (ended : s.tornDown = true) (events : List Event) :
    s.Frozen (s.follow events) ∧ s.errands events = [] := by
  induction events generalizing s with
  | nil => exact ⟨frozen_refl ended, rfl⟩
  | cons e rest ih =>
    obtain ⟨frozen, none⟩ := meet_over ended e
    obtain ⟨later, noneLater⟩ := ih frozen.ended
    refine ⟨?_, ?_⟩
    · have next := frozen.trans later
      rw [meet_session] at next
      exact next
    · rw [errands, none, noneLater]
      rfl

theorem teardown_keeps (s : Session) :
    s.teardown.1.store = s.store ∧ s.teardown.1.stats = s.stats := by
  unfold teardown
  split <;> exact ⟨rfl, rfl⟩

/-! ### What the end leaves of the push channel -/

def Resigned (s : Session) : Prop :=
  s.tornDown = true → s.connection = none ∧ s.connectionState = .disconnected

theorem resigned_of_live {s : Session} (live : s.tornDown = false) : s.Resigned := by
  intro ended
  rw [live] at ended
  cases ended

theorem Resigned.frozen {s t : Session} (resigned : s.Resigned) (ended : s.tornDown = true)
    (frozen : s.Frozen t) : t.Resigned := by
  obtain ⟨connection, state⟩ := resigned ended
  exact fun _ => ⟨frozen.connection.trans connection, frozen.connectionState.trans state⟩

theorem teardown_ends {s : Session} (resigned : s.Resigned) :
    s.teardown.1.tornDown = true ∧ s.teardown.1.Resigned := by
  cases ended : s.tornDown with
  | true =>
    rw [teardown_over ended]
    exact ⟨ended, resigned⟩
  | false =>
    simp only [teardown, ended]
    exact ⟨rfl, fun _ => ⟨rfl, rfl⟩⟩

theorem perform_goes_on (s : Session) {a : Action} (other : a ≠ .teardown) :
    (s.perform a).1.tornDown = s.tornDown := by
  cases a with
  | teardown => exact absurd rfl other
  | setCriteria | dismissError | hover | clearPaths | takeArtifact => rfl
  | refresh | clear | prune | subgraph => exact requestGraph_tornDown _ s
  | loadStats | findPaths | exportFromServer => exact congrArg (·.tornDown) (ask_session _ s)
  | retry =>
    simp only [perform, retry, tryAgain]
    split
    · exact requestGraph_tornDown _ _
    · rfl
  | select id =>
    simp only [perform, select]
    split
    · rfl
    · cases id with
      | none => rfl
      | some id => rw [ask_session]
  | search query =>
    simp only [perform, search]
    split
    · rfl
    · rw [ask_session]
  | connect =>
    simp only [perform, connect]
    split <;> rfl

theorem perform_resigned {s : Session} (resigned : s.Resigned) (a : Action) :
    (s.perform a).1.Resigned := by
  cases ended : s.tornDown with
  | true => exact resigned.frozen ended (perform_over ended a).1
  | false =>
    by_cases last : a = .teardown
    · subst last
      exact (teardown_ends resigned).2
    · exact resigned_of_live ((perform_goes_on s last).trans ended)

theorem receiveAll_goes_on {s : Session} (live : s.tornDown = false) (messages : List Message) :
    (s.receiveAll messages).1.tornDown = false := by
  rw [receiveAll_session]
  induction messages generalizing s with
  | nil => exact live
  | cons m rest ih =>
    rw [List.foldl_cons]
    exact ih (receive_effect live m).2

theorem take_resigned {s : Session} (resigned : s.Resigned) (e : Event) : (s.take e).Resigned := by
  cases e with
  | act a => exact perform_resigned resigned a
  | pump messages =>
    cases ended : s.tornDown with
    | true =>
      simp only [take, receiveAll_over ended]
      exact resigned
    | false => exact resigned_of_live (receiveAll_goes_on ended messages)

theorem follow_resigned {s : Session} (resigned : s.Resigned) (events : List Event) :
    (s.follow events).Resigned := by
  induction events generalizing s with
  | nil => exact resigned
  | cons e rest ih => exact ih (take_resigned resigned e)

theorem pump_over {σ : Type} (b : Rehearsal.Backend σ) (w : Rehearsal.World σ) {s : Session}
    (ended : s.tornDown = true) :
    (Rehearsal.Sitting.pump b ⟨w, s⟩).1 = ⟨{ w with inbox := [] }.deliver, s⟩ := by
  simp only [Rehearsal.Sitting.pump, Rehearsal.World.takeInbox, receiveAll_quiet ended]
  rfl

/-- After the end of a session nothing is asked of the world, whatever the user does and whatever
still arrives: no call, no push connection. Graph, revision, loading flag and statistics are those
of the end. The session shows itself disconnected and is connected in no world; taking what has
arrived changes nothing in it, and nor does ending it again. -/
theorem end_is_final (limits : QueryLimits) (before after : List Event) :
    let s := follow { limits } before
    let ended := (s.perform .teardown).1
    let t := ended.follow after
    ended.errands after = [] ∧
      t.store.snapshot = s.store.snapshot ∧ t.store.revision = s.store.revision ∧
      t.store.loading = s.store.loading ∧ t.stats = s.stats ∧
      t.tornDown = true ∧ t.connectionState = .disconnected ∧
      (∀ messages, t.receiveAll messages = (t, [])) ∧ t.teardown = (t, []) ∧
      ∀ (σ : Type) (b : Rehearsal.Backend σ) (w : Rehearsal.World σ),
        w.isConnected t.connection = false ∧
        (Rehearsal.Sitting.pump b ⟨w, t⟩).1.session = t ∧
        (Rehearsal.Sitting.pump b ⟨w, t⟩).1.world.calls = w.calls ∧
        (Rehearsal.Sitting.pump b ⟨w, t⟩).1.world.hub = w.hub := by
  intro s ended t
  have start : Resigned { limits } := resigned_of_live rfl
  obtain ⟨isOver, resigned⟩ := teardown_ends (follow_resigned start before)
  obtain ⟨frozen, silent⟩ := follow_over isOver after
  obtain ⟨connection, state⟩ := resigned.frozen isOver frozen frozen.ended
  obtain ⟨store, stats⟩ := teardown_keeps s
  refine ⟨silent, frozen.snapshot.trans (congrArg (·.snapshot) store),
    frozen.revision.trans (congrArg (·.revision) store),
    frozen.loading.trans (congrArg (·.loading) store), frozen.stats.trans stats, frozen.ended, state,
    receiveAll_quiet frozen.ended, teardown_over frozen.ended, ?_⟩
  intro σ b w
  have pumped := pump_over b w frozen.ended
  refine ⟨?_, congrArg (·.session) pumped, ?_, ?_⟩
  · rw [show t.connection = none from connection]
    rfl
  · exact congrArg (·.world.calls) pumped
  · exact congrArg (·.world.hub) pumped

end Session

end CodeAtlas
