import CodeAtlas.Proofs.Arrivals
import CodeAtlas.Proofs.RequestCount

/-!
A session with a record of all that happened in it: what the user did, what the push channel
brought, and which call came to which end. Of a session that is not over, a field that entries set
is what the newest of these has set it to.
-/
namespace CodeAtlas

namespace Session

def Action.retries : Action → Bool
  | .retry => true
  | _ => false

def Action.blanks : Action → Bool
  | .search query => Text.trim query = ""
  | _ => false

theorem requestGraph_remembers (r : GraphRequest) (s : Session) :
    (s.requestGraph r).1.failed = s.failed ∧ (s.requestGraph r).1.found = s.found := by
  cases ended : s.tornDown with
  | false =>
    rw [requestGraph_live ended]
    exact ⟨rfl, rfl⟩
  | true =>
    rw [requestGraph_over ended]
    exact ⟨rfl, rfl⟩

theorem perform_remembers (s : Session) (a : Action) :
    (s.perform a).1.failed = (if a.retries then none else s.failed) ∧
      (s.perform a).1.found = if a.blanks then [] else s.found := by
  cases a with
  | setCriteria | dismissError | hover | clearPaths | takeArtifact => exact ⟨rfl, rfl⟩
  | refresh | clear | prune | subgraph => exact requestGraph_remembers _ s
  | loadStats | findPaths | exportFromServer =>
    exact ⟨congrArg (·.failed) (ask_session _ s), congrArg (·.found) (ask_session _ s)⟩
  | retry =>
    cases remembered : s.failed with
    | some r =>
      simp only [perform, retry, tryAgain, remembered]
      exact requestGraph_remembers r { s with failed := none }
    | none =>
      simp only [perform, retry, tryAgain, remembered]
      exact ⟨remembered, rfl⟩
  | select id =>
    simp only [perform, select]
    split
    · exact ⟨rfl, rfl⟩
    · cases id with
      | none => exact ⟨rfl, rfl⟩
      | some id => rw [ask_session]; exact ⟨rfl, rfl⟩
  | search query =>
    simp only [perform, search, Action.retries, Action.blanks, decide_eq_true_eq]
    split
    · exact ⟨rfl, rfl⟩
    · rw [ask_session]
      exact ⟨rfl, rfl⟩
  | connect | teardown =>
    simp only [perform, connect, teardown]
    split <;> exact ⟨rfl, rfl⟩

theorem hear_remembers (s : Session) (e : ConnectionEvent) :
    (s.receive (.connection e)).1.failed = s.failed ∧
      (s.receive (.connection e)).1.found = s.found := by
  unfold receive
  split
  · exact ⟨rfl, rfl⟩
  · cases e with
    | state state => exact ⟨rfl, rfl⟩
    | push e =>
      cases e with
      | graphUpdated => exact requestGraph_remembers .refresh s
      | ignored kind => exact ⟨rfl, rfl⟩
      | delta d =>
        dsimp only [quiet]
        split
        · obtain ⟨selection, details, same⟩ :=
            forgetMissing_cases { s with store := (s.store.apply d).1 }
          rw [same]
          exact ⟨rfl, rfl⟩
        · exact ⟨rfl, rfl⟩

end Session

inductive Chronicle.Entry where
  | acted (a : Session.Action)
  | heard (e : ConnectionEvent)
  /-- The call that was sent by the entry with that number has ended. -/
  | ended (sender : Nat) (c : Call) (k : Completion)

structure Chronicle where
  session : Session
  /-- The newest entry comes first. The number of an entry is how many were made before it. -/
  entries : List Chronicle.Entry := []
  /-- The calls that have not ended, each with the number of the entry that sent it. -/
  pending : List (Nat × Call) := []

namespace Chronicle

def note (l : Chronicle) (e : Entry) (r : Session.Result) (pending : List (Nat × Call)) :
    Chronicle :=
  ⟨r.1, e :: l.entries, pending ++ (callsOf r.2).map (l.entries.length, ·)⟩

def act (l : Chronicle) (a : Session.Action) : Chronicle :=
  l.note (.acted a) (l.session.perform a) l.pending

def hear (l : Chronicle) (e : ConnectionEvent) : Chronicle :=
  l.note (.heard e) (l.session.receive (.connection e)) l.pending

def finish (l : Chronicle) (request : Nat × Call) (k : Completion) : Chronicle :=
  l.note (.ended request.1 request.2 k) (l.session.receive (.completed k))
    (l.pending.erase request)

inductive Reachable (limits : QueryLimits) : Chronicle → Prop where
  | start : Reachable limits { session := { limits } }
  | act {l : Chronicle} (reached : Reachable limits l) (a : Session.Action) :
      Reachable limits (l.act a)
  | hear {l : Chronicle} (reached : Reachable limits l) (e : ConnectionEvent) :
      Reachable limits (l.hear e)
  | finish {l : Chronicle} (reached : Reachable limits l) (request : Nat × Call)
      (sent : request ∈ l.pending) (k : Completion) (answers : k.Answers request.2) :
      Reachable limits (l.finish request k)

theorem live_of_receive {s : Session} {m : Message} (live : (s.receive m).1.tornDown = false) :
    s.tornDown = false := by
  cases ended : s.tornDown with
  | false => rfl
  | true =>
    rw [Session.receive_over ended, Session.quiet, ended] at live
    cases live

theorem live_of_perform {s : Session} {a : Session.Action}
    (live : (s.perform a).1.tornDown = false) : s.tornDown = false := by
  cases ended : s.tornDown with
  | false => rfl
  | true =>
    rw [Session.perform_stays_over ended a] at live
    cases live

section

variable {β : Type} {limits : QueryLimits} (read : Session → β) {sets : Entry → Option β}

/-- If each step gives a field what its entry sets, the record tells the field: it is what the newest
entry that sets it has set, and what a new session has if there is none. -/
theorem Reachable.read_eq
    (acts : ∀ s a, s.tornDown = false →
      read (s.perform a).1 = (sets (.acted a)).getD (read s))
    (hears : ∀ s e, s.tornDown = false →
      read (s.receive (.connection e)).1 = (sets (.heard e)).getD (read s))
    (ends : ∀ s n c k, s.tornDown = false → k.Answers c →
      read (s.receive (.completed k)).1 = (sets (.ended n c k)).getD (read s))
    {l : Chronicle} (reached : Reachable limits l) (live : l.session.tornDown = false) :
    read l.session = (l.entries.findSome? sets).getD (read { limits }) := by
  -- a session that is over stays over, so each step starts from one that is not
  have newest (e : Entry) (entries : List Entry) : ((e :: entries).findSome? sets).getD
      (read { limits }) = (sets e).getD ((entries.findSome? sets).getD (read { limits })) := by
    rw [List.findSome?_cons]
    cases sets e <;> rfl
  induction reached with
  | start => rfl
  | act reached a ih =>
    have before := live_of_perform live
    exact (acts _ a before).trans ((ih before) ▸ (newest _ _).symm)
  | hear reached e ih =>
    have before := live_of_receive live
    exact (hears _ e before).trans ((ih before) ▸ (newest _ _).symm)
  | finish reached request sent k answers ih =>
    have before := live_of_receive live
    exact (ends _ request.1 request.2 k before answers).trans ((ih before) ▸ (newest _ _).symm)

end

end Chronicle

end CodeAtlas
