import CodeAtlas.Proofs.RequestCount

/-!
Answers that come late. Details are asked for when a node is selected, and the answer is taken if
that node is selected when it comes. This tells the requests of two nodes apart, but not two
requests for one node: a node that is selected again while its first request is pending is shown
with whichever answer comes last.
-/
namespace CodeAtlas

namespace Session

def selects (s : Session) : Action → Bool
  | .select id => decide (s.selection.selected ≠ id)
  | _ => false

theorem requestGraph_selection (r : GraphRequest) (s : Session) :
    (s.requestGraph r).1.selection = s.selection ∧ (s.requestGraph r).1.details = s.details := by
  unfold requestGraph
  split
  · exact ⟨rfl, rfl⟩
  · rw [ask_session]
    exact ⟨rfl, rfl⟩

theorem perform_selected {s : Session} {a : Action} (other : s.selects a = false) :
    (s.perform a).1.selection.selected = s.selection.selected ∧
      (s.perform a).1.details = s.details := by
  cases a with
  | setCriteria | dismissError | hover | clearPaths | takeArtifact => exact ⟨rfl, rfl⟩
  | refresh | clear | prune | subgraph =>
    obtain ⟨selection, details⟩ := requestGraph_selection _ s
    exact ⟨congrArg _ selection, details⟩
  | loadStats | findPaths | exportFromServer =>
    exact ⟨congrArg (·.selection.selected) (ask_session _ s),
      congrArg (·.details) (ask_session _ s)⟩
  | retry =>
    simp only [perform, retry, tryAgain]
    split
    · obtain ⟨selection, details⟩ := requestGraph_selection _ { s with failed := none }
      exact ⟨congrArg _ selection, details⟩
    · exact ⟨rfl, rfl⟩
  | select id =>
    have same : s.selection.selected = id := by simpa [selects] using other
    simp only [perform, select, same, ↓reduceIte, quiet, and_self]
  | search query =>
    simp only [perform, search]
    split
    · exact ⟨rfl, rfl⟩
    · rw [ask_session]
      exact ⟨rfl, rfl⟩
  | connect | teardown =>
    simp only [perform, connect, teardown]
    split <;> exact ⟨rfl, rfl⟩

theorem select_selected {s : Session} {id : Option String} (other : s.selection.selected ≠ id) :
    (s.perform (.select id)).1.selection.selected = id ∧
      (s.perform (.select id)).1.details = none ∧
      (s.perform (.select id)).1.tornDown = s.tornDown := by
  simp only [perform, select, other, ↓reduceIte]
  cases id with
  | none => exact ⟨rfl, rfl, rfl⟩
  | some id => rw [ask_session]; exact ⟨rfl, rfl, rfl⟩

theorem select_sets (s : Session) (id : Option String) :
    (s.perform (.select id)).1.selection.selected = id := by
  by_cases same : s.selection.selected = id
  · simp only [perform, select, same, ↓reduceIte, quiet]
  · exact (select_selected same).1

/-! ### Arrivals select nothing -/

theorem forgetMissing_selected {s : Session} {id : String}
    (after : s.forgetMissing.selection.selected = some id) : s.selection.selected = some id := by
  simp only [forgetMissing] at after
  split at after
  · split at after <;> cases after
  · split at after <;> exact after

theorem complete_selected {s : Session} {k : Completion} {id : String}
    (after : (s.complete k).selection.selected = some id) : s.selection.selected = some id := by
  cases k with
  | graph r result =>
    cases result with
    | ok p =>
      have before := forgetMissing_selected after
      exact before
    | error why => exact after
  | cleared result =>
    cases result with
    | ok done =>
      cases done with
      | true => cases after
      | false => exact after
    | error why => exact after
  | stats result => exact after
  | details asked result =>
    simp only [complete] at after
    split at after <;> exact after
  | paths result | search query result | artifact format result =>
    cases result <;> exact after

theorem receive_selected {s : Session} {m : Message} {id : String}
    (after : (s.receive m).1.selection.selected = some id) : s.selection.selected = some id := by
  unfold receive at after
  split at after
  · exact after
  · cases m with
    | completed k => exact complete_selected after
    | connection e =>
      cases e with
      | state state => exact after
      | push e =>
        cases e with
        | graphUpdated =>
          dsimp only [refresh] at after
          rwa [(requestGraph_selection .refresh s).1] at after
        | ignored kind => exact after
        | delta d =>
          dsimp only [quiet] at after
          split at after
          · have before := forgetMissing_selected after
            exact before
          · exact after

theorem receive_details_live {s : Session} (live : s.tornDown = false) {id : String}
    (shown : s.selection.selected = some id) (result : Except Failure Json) :
    (s.receive (.completed (.details id result))).1.details =
      result.toOption.map fun value => ⟨id, value⟩ := by
  simp [receive, live, complete, shown, quiet]

theorem receive_details_other {s : Session} {id : String}
    (other : s.selection.selected ≠ some id) (result : Except Failure Json) :
    (s.receive (.completed (.details id result))).1.details = s.details := by
  simp only [receive, complete, other, ↓reduceIte, quiet, ite_self]

end Session

/-- A session with its pending calls, each under the number of the selection it was sent after. -/
structure Ledger where
  session : Session
  /-- How many selections were made. -/
  selections : Nat
  pending : List (Nat × Call)

namespace Ledger

def after (r : Session.Result) (selections : Nat) (pending : List (Nat × Call)) : Ledger :=
  ⟨r.1, selections, pending ++ (callsOf r.2).map (selections, ·)⟩

def act (l : Ledger) (a : Session.Action) : Ledger :=
  after (l.session.perform a) (l.selections + if l.session.selects a then 1 else 0) l.pending

def hear (l : Ledger) (e : ConnectionEvent) : Ledger :=
  after (l.session.receive (.connection e)) l.selections l.pending

def finish (l : Ledger) (request : Nat × Call) (k : Completion) : Ledger :=
  after (l.session.receive (.completed k)) l.selections (l.pending.erase request)

/-- What comes of a new session by arrivals in any order and by actions of the user, each of which
`may` be taken where it is. -/
inductive Reachable (limits : QueryLimits) (may : Ledger → Session.Action → Prop) :
    Ledger → Prop where
  | start : Reachable limits may ⟨{ limits }, 0, []⟩
  | act {l : Ledger} (reached : Reachable limits may l) (a : Session.Action) (allowed : may l a) :
      Reachable limits may (l.act a)
  | hear {l : Ledger} (reached : Reachable limits may l) (e : ConnectionEvent) :
      Reachable limits may (l.hear e)
  | finish {l : Ledger} (reached : Reachable limits may l) (request : Nat × Call)
      (sent : request ∈ l.pending) (k : Completion) (answers : k.Answers request.2) :
      Reachable limits may (l.finish request k)

/-- No answer to a request from before the present selection would change the details. -/
def IgnoresStale (l : Ledger) : Prop :=
  ∀ n id, (n, .details id) ∈ l.pending → n < l.selections → ∀ result : Except Failure Json,
    (l.session.receive (.completed (.details id result))).1.details = l.session.details

/-- A node is selected whose details were asked for before, by a request that is still pending. -/
def AsksAgain (l : Ledger) (a : Session.Action) : Prop :=
  ∃ n id, a = .select (some id) ∧ l.session.selection.selected ≠ some id ∧
    (n, .details id) ∈ l.pending

theorem mem_after {r : Session.Result} {selections n : Nat} {pending : List (Nat × Call)}
    {c : Call} (member : (n, c) ∈ (after r selections pending).pending) :
    (n, c) ∈ pending ∨ n = selections := by
  rcases List.mem_append.mp member with old | new
  · exact .inl old
  · obtain ⟨_, _, same⟩ := List.mem_map.mp new
    exact .inr (congrArg Prod.fst same).symm

theorem pending_numbered {limits : QueryLimits} {may : Ledger → Session.Action → Prop} {l : Ledger}
    (reached : Reachable limits may l) : ∀ n c, (n, c) ∈ l.pending → n ≤ l.selections := by
  induction reached with
  | start =>
    intro n c member
    cases member
  | act reached a allowed ih =>
    intro n c member
    rcases mem_after member with old | same
    · exact Nat.le_add_right_of_le (ih n c old)
    · exact Nat.le_of_eq same
  | hear reached e ih =>
    intro n c member
    rcases mem_after member with old | same
    · exact ih n c old
    · exact Nat.le_of_eq same
  | finish reached request sent k answers ih =>
    intro n c member
    rcases mem_after member with old | same
    · exact ih n c (List.mem_of_mem_erase old)
    · exact Nat.le_of_eq same

def Apart (l : Ledger) : Prop :=
  ∀ n id, (n, .details id) ∈ l.pending → n < l.selections → l.session.selection.selected ≠ some id

theorem Apart.ignoresStale {l : Ledger} (apart : l.Apart) : l.IgnoresStale := by
  intro n id sent stale result
  exact Session.receive_details_other (apart n id sent stale) result

/-- What an arrival leaves of the selection was selected before, and what it sends is not stale. -/
theorem Apart.arrival {l : Ledger} (apart : l.Apart) (m : Message) {pending : List (Nat × Call)}
    (fewer : pending ⊆ l.pending) : (after (l.session.receive m) l.selections pending).Apart := by
  intro n id sent stale selected
  rcases mem_after sent with old | same
  · exact apart n id (fewer old) stale (Session.receive_selected selected)
  · exact absurd same (Nat.ne_of_lt stale)

theorem Apart.act {l : Ledger} (apart : l.Apart) {a : Session.Action} (once : ¬ l.AsksAgain a) :
    (l.act a).Apart := by
  intro n id sent stale selected
  rcases mem_after sent with old | same
  · cases selects : l.session.selects a with
    | false =>
      have before : n < l.selections := by simpa [Ledger.act, after, selects] using stale
      exact apart n id old before ((Session.perform_selected selects).1.symm.trans selected)
    | true =>
      -- only a selection selects, and this one is of a node that has no request pending
      cases a with
      | select chosen =>
        have other : l.session.selection.selected ≠ chosen := by
          simpa [Session.selects] using selects
        have same : chosen = some id := (Session.select_selected other).1.symm.trans selected
        subst same
        exact once ⟨n, id, rfl, other, old⟩
      | _ => cases selects
  · exact absurd same (Nat.ne_of_lt stale)

theorem reachable_apart {limits : QueryLimits} {l : Ledger}
    (reached : Reachable limits (fun l a => ¬ l.AsksAgain a) l) : l.Apart := by
  induction reached with
  | start =>
    intro n id sent
    cases sent
  | act reached a once ih => exact ih.act once
  | hear reached e ih => exact ih.arrival _ (List.Subset.refl _)
  | finish reached request sent k answers ih => exact ih.arrival _ (List.erase_subset)

theorem AsksAgain.takes_stale {l : Ledger} {a : Session.Action} (again : l.AsksAgain a)
    (numbered : ∀ n c, (n, c) ∈ l.pending → n ≤ l.selections)
    (live : l.session.tornDown = false) : ¬ (l.act a).IgnoresStale := by
  obtain ⟨n, id, rfl, other, sent⟩ := again
  obtain ⟨selected, details, ended⟩ := Session.select_selected other
  have selects : l.session.selects (.select (some id)) = true := by simpa [Session.selects]
  have stale : n < (l.act (.select (some id))).selections := by
    simp only [act, after, selects, ↓reduceIte]
    exact Nat.lt_succ_of_le (numbered n _ sent)
  intro ignores
  have kept := ignores n id (List.mem_append_left _ sent) stale (.ok .null)
  have taken := Session.receive_details_live (ended.trans live) selected (.ok .null)
  have changed := taken.symm.trans (kept.trans details)
  cases changed

/-- As long as no node is selected again while an earlier request for its details is pending, no
answer to a request from before the present selection changes the details, whatever happens in
between. Whenever one is, in a session that is not over, there is such an answer. -/
theorem stale_details_ignored_unless_asked_again (limits : QueryLimits) :
    (∀ l, Reachable limits (fun l a => ¬ l.AsksAgain a) l → l.IgnoresStale) ∧
      ∀ l a, Reachable limits (fun _ _ => True) l → l.session.tornDown = false →
        l.AsksAgain a → ¬ (l.act a).IgnoresStale := by
  constructor
  · intro l reached
    exact (reachable_apart reached).ignoresStale
  · intro l a reached live again
    exact again.takes_stale (pending_numbered reached) live

/-- Two nodes are selected in turn, and the answer for the first comes last. -/
theorem answer_for_former_selection_ignored :
    ∃ l, Reachable {} (fun l a => ¬ l.AsksAgain a) l ∧ (1, .details "a") ∈ l.pending ∧
      1 < l.selections ∧ l.session.details = some ⟨"b", .null⟩ ∧
      ∀ result : Except Failure Json,
        (l.session.receive (.completed (.details "a" result))).1.details = some ⟨"b", .null⟩ := by
  have first : ¬ AsksAgain ⟨{ limits := {} }, 0, []⟩ (.select (some "a")) := by
    rintro ⟨n, id, _, _, sent⟩
    cases sent
  have fresh : Reachable {} (fun l a => ¬ l.AsksAgain a) _ := .start
  have selected := fresh.act _ first
  have second : ¬ AsksAgain (act ⟨{ limits := {} }, 0, []⟩ (.select (some "a")))
      (.select (some "b")) := by
    rintro ⟨n, id, same, _, sent⟩
    cases same
    simp [act, after, Session.perform, Session.select, Session.ask, callsOf] at sent
  have answered := (selected.act _ second).finish (2, .details "b") (by decide) _
    (.details "b" (.ok .null))
  have ignores := (stale_details_ignored_unless_asked_again {}).1 _ answered
  exact ⟨_, answered, by decide, by decide, rfl, ignores 1 "a" (by decide) (by decide)⟩

/-- A node is selected, left and selected again, and its second request is answered first. The
answer to the first one then replaces what is shown, and its failure erases it. -/
theorem stale_answer_replaces_or_erases :
    ∃ l, Reachable {} (fun _ _ => True) l ∧ (1, .details "a") ∈ l.pending ∧ 1 < l.selections ∧
      l.session.details = some ⟨"a", .bool true⟩ ∧
      (l.session.receive (.completed (.details "a" (.ok .null)))).1.details = some ⟨"a", .null⟩ ∧
      (l.session.receive (.completed (.details "a" (.error (.backend "down"))))).1.details =
        none := by
  have fresh : Reachable {} (fun _ _ => True) _ := .start
  have left := (fresh.act (.select (some "a")) trivial).act (.select (some "b")) trivial
  have again := left.act (.select (some "a")) trivial
  have answered := again.finish (3, .details "a") (by decide) _ (.details "a" (.ok (.bool true)))
  exact ⟨_, answered, by decide, by decide, rfl, rfl, rfl⟩

end Ledger

end CodeAtlas
