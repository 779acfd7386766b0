import CodeAtlas.Proofs.Chronicle

/-!
Trying again. A session remembers one request for a graph: the one that ended last, if it failed.
The end of a clearing does not say what was asked for, and several requests may be under way when one
of them fails; what is asked for again is the request that failed, all the same.
-/
namespace CodeAtlas

namespace Chronicle

namespace Entry

def endsGraph : Entry → Bool
  | .ended _ c _ => c.isGraph
  | _ => false

def retriable? : Entry → Option (Option GraphRequest)
  | .ended _ (.graph r) k => some (if k.failed then some r else none)
  | .acted .retry => some none
  | _ => none

theorem retriable_eq_none {e : Entry} :
    e.retriable? = none ↔ e.endsGraph = false ∧ e ≠ .acted .retry := by
  cases e with
  | acted a => cases a <;> simp [retriable?, endsGraph]
  | heard e => simp [retriable?, endsGraph]
  | ended n c k => cases c <;> simp [retriable?, endsGraph, Call.isGraph]

theorem retriable_eq_some {e : Entry} {r : GraphRequest} :
    e.retriable? = some (some r) ↔ ∃ n k, e = .ended n (.graph r) k ∧ k.failed = true := by
  constructor
  · intro leaves
    cases e with
    | acted a => cases a <;> simp [retriable?] at leaves
    | heard e => simp [retriable?] at leaves
    | ended n c k =>
      cases c with
      | graph asked =>
        simp only [retriable?, Option.some.injEq, Option.ite_none_right_eq_some] at leaves
        obtain ⟨failed, same⟩ := leaves
        exact ⟨n, k, by rw [same], failed⟩
      | stats | details | paths | search | artifact => simp [retriable?] at leaves
  · rintro ⟨n, k, rfl, failed⟩
    simp [retriable?, failed]

end Entry

/-- The request for a graph that was the last to end has failed, and nothing was tried again since. -/
def LastFailed (l : Chronicle) (r : GraphRequest) : Prop :=
  ∃ later n k earlier, l.entries = later ++ .ended n (.graph r) k :: earlier ∧ k.failed = true ∧
    ∀ e ∈ later, e.endsGraph = false ∧ e ≠ .acted .retry

theorem finish_lastFailed (l : Chronicle) (n : Nat) (r : GraphRequest) {k : Completion}
    (failed : k.failed = true) : (l.finish (n, .graph r) k).LastFailed r :=
  ⟨[], n, k, l.entries, rfl, failed, by simp⟩

theorem complete_failed (s : Session) {c : Call} {k : Completion} (answers : k.Answers c)
    (n : Nat) : (s.complete k).failed = ((Entry.ended n c k).retriable?).getD s.failed := by
  cases answers with
  | graph r other result =>
    cases result with
    | error why => rfl
    | ok p =>
      simp only [Session.complete]
      obtain ⟨selection, details, same⟩ := Session.forgetMissing_cases { s.finishGraphRequest with
        store := (s.finishGraphRequest.store.replace (.ofPayload p)).setError none, failed := none }
      rw [same]
      rfl
  | cleared result =>
    cases result with
    | error why => rfl
    | ok done => cases done <;> rfl
  | stats result => rfl
  | details id result =>
    simp only [Session.complete]
    split <;> rfl
  | paths source target maxLength result => cases result <;> rfl
  | search query filters result => cases result <;> rfl
  | artifact format result => cases result <;> rfl

theorem Reachable.failed_eq {limits : QueryLimits} {l : Chronicle} (reached : Reachable limits l)
    (live : l.session.tornDown = false) :
    l.session.failed = (l.entries.findSome? Entry.retriable?).getD none := by
  refine Reachable.read_eq Session.failed ?_ ?_ ?_ reached live
  · intro s a _
    rw [(Session.perform_remembers s a).1]
    cases a <;> rfl
  · intro s e _
    exact (Session.hear_remembers s e).1
  · intro s n c k live answers
    rw [Session.receive_completed live, complete_failed s answers n]

theorem Reachable.failed_iff {limits : QueryLimits} {l : Chronicle} (reached : Reachable limits l)
    (live : l.session.tornDown = false) (r : GraphRequest) :
    l.session.failed = some r ↔ l.LastFailed r := by
  have told : l.session.failed = some r ↔
      l.entries.findSome? Entry.retriable? = some (some r) := by
    rw [reached.failed_eq live]
    cases l.entries.findSome? Entry.retriable? <;> simp
  rw [told, List.findSome?_eq_some_iff]
  constructor
  · rintro ⟨later, e, earlier, shape, leaves, silent⟩
    obtain ⟨n, k, rfl, failed⟩ := Entry.retriable_eq_some.mp leaves
    exact ⟨later, n, k, earlier, shape, failed, fun e member =>
      Entry.retriable_eq_none.mp (silent e member)⟩
  · rintro ⟨later, n, k, earlier, shape, failed, silent⟩
    exact ⟨later, _, earlier, shape, Entry.retriable_eq_some.mpr ⟨n, k, rfl, failed⟩,
      fun e member => Entry.retriable_eq_none.mpr (silent e member)⟩

/-- Of a session that is not over: it can try again exactly if the request for a graph that ended
last has failed and no other try was made since. Then a try sends that request and no other, forgets
it and tells so; else it sends nothing, changes nothing and tells that. -/
theorem retry_sends_request_that_failed_last {limits : QueryLimits} {l : Chronicle}
    (reached : Reachable limits l) (live : l.session.tornDown = false) :
    (l.session.canRetry = true ↔ ∃ r, l.LastFailed r) ∧
      (∀ r, l.LastFailed r → l.session.tryAgain =
        (({ l.session with
            failed := none
            inFlight := l.session.inFlight + 1
            store := l.session.store.setLoading true }, [.call (.graph r)]), true)) ∧
      ((¬∃ r, l.LastFailed r) → l.session.tryAgain = ((l.session, []), false)) := by
  have can : l.session.canRetry = true ↔ ∃ r, l.LastFailed r := by
    rw [Session.canRetry, Option.isSome_iff_exists]
    exact exists_congr (reached.failed_iff live)
  refine ⟨can, ?_, ?_⟩
  · intro r failed
    have remembered : l.session.failed = some r := (reached.failed_iff live r).mpr failed
    have forgetful : ({ l.session with failed := none } : Session).tornDown = false := live
    simp only [Session.tryAgain, remembered]
    rw [Session.requestGraph_live forgetful]
  · intro none
    have forgotten : l.session.failed = Option.none := by
      rw [← can, Session.canRetry, Bool.not_eq_true, Option.isSome_eq_false_iff,
        Option.isNone_iff_eq_none] at none
      exact none
    simp only [Session.tryAgain, forgotten, Session.quiet]

/-- Three requests are under way. The refresh succeeds, and then the clearing is declined, which is
what is tried again, while the subgraph is still to come. -/
theorem declined_clearing_tried_again :
    let options : SubgraphOptions := { depth := some 2 }
    ∃ l, Reachable {} l ∧ l.session.tornDown = false ∧ l.LastFailed .clear ∧
      l.session.canRetry = true ∧ (2, .graph (.subgraph "a" options)) ∈ l.pending ∧
      l.session.tryAgain.1.2 = [.call (.graph .clear)] ∧ l.session.tryAgain.2 = true ∧
      (l.act .retry).session.tryAgain.2 = false := by
  intro options
  have new : Reachable {} _ := .start
  have asked := ((new.act .refresh).act .clear).act (.subgraph "a" options)
  have refreshed := asked.finish (0, .graph .refresh) (by decide) (.graph .refresh (.ok ⟨[], []⟩))
    (.graph .refresh (by decide) _)
  have declined := refreshed.finish (1, .graph .clear) (by decide) (.cleared (.ok false))
    (.cleared _)
  obtain ⟨can, again, _⟩ := retry_sends_request_that_failed_last declined rfl
  have sends := again .clear (finish_lastFailed _ 1 .clear rfl)
  refine ⟨_, declined, rfl, finish_lastFailed _ 1 .clear rfl,
    can.mpr ⟨_, finish_lastFailed _ 1 .clear rfl⟩, by decide, ?_, ?_, rfl⟩
  · rw [sends]
  · rw [sends]

end Chronicle

end CodeAtlas
