import CodeAtlas.Proofs.Chronicle

/-!
Searches on the backend, of which several may be under way. An answer does not count as that of a
certain search: whichever comes last is shown, also when another search was made meanwhile, or a blank
one that was to clear the list.
-/
namespace CodeAtlas

namespace Chronicle

namespace Entry

def searches : Entry → Bool
  | .acted (.search _) => true
  | _ => false

def finds? : Entry → Option (List Node)
  | .acted a => if a.blanks then some [] else none
  | .ended _ _ (.search _ (.ok nodes)) => some nodes
  | _ => none

theorem finds_eq_some {e : Entry} {nodes : List Node} (finds : e.finds? = some nodes) :
    e.searches = true ∨ ∃ n c query, e = .ended n c (.search query (.ok nodes)) := by
  cases e with
  | acted a =>
    cases a with
    | search query => exact .inl rfl
    | _ => cases finds
  | heard e => cases finds
  | ended n c k =>
    cases k with
    | search query result =>
      cases result with
      | error why => cases finds
      | ok found =>
        cases finds
        exact .inr ⟨n, c, query, rfl⟩
    | _ => cases finds

end Entry

def foundIn (entries : List Entry) : List Node := (entries.findSome? Entry.finds?).getD []

theorem complete_found (s : Session) (n : Nat) (c : Call) (k : Completion) :
    (s.complete k).found = ((Entry.ended n c k).finds?).getD s.found := by
  cases k with
  | graph r result =>
    cases result with
    | error why => rfl
    | ok p =>
      simp only [Session.complete]
      obtain ⟨selection, details, same⟩ := Session.forgetMissing_cases { s.finishGraphRequest with
        store := (s.finishGraphRequest.store.replace (.ofPayload p)).setError none, failed := none }
      rw [same]
      rfl
  | cleared result =>
    cases result with
    | error why => rfl
    | ok done => cases done <;> rfl
  | stats result => rfl
  | details id result =>
    simp only [Session.complete]
    split <;> rfl
  | paths result | search query result | artifact format result => cases result <;> rfl

theorem Reachable.found_eq {limits : QueryLimits} {l : Chronicle} (reached : Reachable limits l)
    (live : l.session.tornDown = false) : l.session.found = foundIn l.entries := by
  refine Reachable.read_eq Session.found ?_ ?_ ?_ reached live
  · intro s a _
    rw [(Session.perform_remembers s a).2, Entry.finds?]
    split <;> rfl
  · intro s e _
    exact (Session.hear_remembers s e).2
  · intro s n c k live _
    rw [Session.receive_completed live, complete_found s n c k]

/-! ### Superseded searches -/

/-- A search was made after the entry with that number. -/
def Superseded (l : Chronicle) (n : Nat) : Prop :=
  ∃ later query earlier, l.entries = later ++ .acted (.search query) :: earlier ∧
    n < earlier.length

/-- No answer to a search that is superseded would change what is found. -/
def IgnoresSuperseded (l : Chronicle) : Prop :=
  ∀ n query filters, (n, .search query filters) ∈ l.pending → l.Superseded n →
    ∀ result : Except Failure (List Node),
      (l.session.receive (.completed (.search query result))).1.found = l.session.found

theorem receive_finds {s : Session} (live : s.tornDown = false) (query : String)
    (nodes : List Node) :
    (s.receive (.completed (.search query (.ok nodes)))).1.found = nodes := by
  rw [Session.receive_completed live]
  rfl

theorem ignoresSuperseded_iff {l : Chronicle} (live : l.session.tornDown = false) :
    l.IgnoresSuperseded ↔
      ∀ n query filters, (n, .search query filters) ∈ l.pending → ¬l.Superseded n := by
  constructor
  · intro ignores n query filters sent superseded
    -- an answer with one node more than are shown would be shown
    let more : List Node := { id := "", kind := .file } :: l.session.found
    have kept := ignores n query filters sent superseded (.ok more)
    rw [receive_finds live] at kept
    have longer := congrArg List.length kept
    simp [more] at longer
  · intro none n query filters sent superseded
    exact absurd superseded (none n query filters sent)

/-! ### Whose answers there are -/

def Asked (entries : List Entry) (n : Nat) (query : String) : Prop :=
  ∃ later given earlier, entries = later ++ .acted (.search given) :: earlier ∧
    earlier.length = n ∧ Text.trim given = query ∧ query ≠ ""

theorem Asked.cons {entries : List Entry} {n : Nat} {query : String}
    (asked : Asked entries n query) (e : Entry) : Asked (e :: entries) n query := by
  obtain ⟨later, given, earlier, shape, rest⟩ := asked
  exact ⟨e :: later, given, earlier, by rw [shape, List.cons_append], rest⟩

structure Sourced (l : Chronicle) : Prop where
  pending : ∀ n query filters, (n, .search query filters) ∈ l.pending → Asked l.entries n query
  ended : ∀ n c query result, .ended n c (.search query result) ∈ l.entries →
    Asked l.entries n query

theorem mem_callsOf {c : Call} {errands : List Errand} :
    c ∈ callsOf errands ↔ .call c ∈ errands := by
  simp only [callsOf, List.mem_filterMap]
  constructor
  · rintro ⟨errand, member, same⟩
    cases errand with
    | call c' =>
      cases same
      exact member
    | openPush | closePush => cases same
  · intro member
    exact ⟨_, member, rfl⟩

theorem ask_sends {s : Session} {c c' : Call} (sent : .call c' ∈ (s.ask c).2) : c' = c := by
  unfold Session.ask at sent
  split at sent
  · cases sent
  · simpa using sent

theorem requestGraph_sends {s : Session} {r : GraphRequest} {c : Call}
    (sent : .call c ∈ (s.requestGraph r).2) : c = .graph r := by
  unfold Session.requestGraph at sent
  split at sent
  · cases sent
  · exact ask_sends sent

theorem perform_sends_search {s : Session} {a : Session.Action} {query : String}
    {filters : SearchFilters} (sent : .call (.search query filters) ∈ (s.perform a).2) :
    ∃ given, a = .search given ∧ Text.trim given = query ∧ query ≠ "" := by
  cases a with
  | search given =>
    simp only [Session.perform, Session.search] at sent
    split at sent
    · cases sent
    · rename_i filled
      cases ask_sends sent
      exact ⟨given, rfl, rfl, filled⟩
  | setCriteria | dismissError | hover | clearPaths | takeArtifact => cases sent
  | refresh | clear | prune | subgraph => cases requestGraph_sends sent
  | loadStats | findPaths | exportFromServer => cases ask_sends sent
  | retry =>
    simp only [Session.perform, Session.retry, Session.tryAgain] at sent
    split at sent
    · cases requestGraph_sends sent
    · cases sent
  | select id =>
    simp only [Session.perform, Session.select] at sent
    split at sent
    · cases sent
    · cases id with
      | none => cases sent
      | some id => cases ask_sends sent
  | connect =>
    simp only [Session.perform, Session.connect] at sent
    split at sent
    · cases sent
    · rcases List.mem_append.mp sent with closing | opening
      · exact absurd closing (Session.closing_sends_none _ _)
      · simp at opening
  | teardown =>
    simp only [Session.perform, Session.teardown] at sent
    split at sent
    · cases sent
    · exact absurd sent (Session.closing_sends_none _ _)

theorem receive_sends {s : Session} {m : Message} {c : Call} (sent : .call c ∈ (s.receive m).2) :
    c = .graph .refresh := by
  unfold Session.receive at sent
  split at sent
  · cases sent
  · cases m with
    | completed k => cases sent
    | connection e =>
      cases e with
      | state state => cases sent
      | push e =>
        cases e with
        | graphUpdated => exact requestGraph_sends sent
        | ignored kind => cases sent
        | delta d => cases sent

theorem mem_note {l : Chronicle} {e : Entry} {r : Session.Result} {pending : List (Nat × Call)}
    {n : Nat} {c : Call} (member : (n, c) ∈ (l.note e r pending).pending) :
    (n, c) ∈ pending ∨ n = l.entries.length ∧ .call c ∈ r.2 := by
  rcases List.mem_append.mp member with old | new
  · exact .inl old
  · obtain ⟨sent, called, same⟩ := List.mem_map.mp new
    cases same
    exact .inr ⟨rfl, mem_callsOf.mp called⟩

theorem Sourced.arrival {l : Chronicle} (sourced : l.Sourced) {e : Entry} {m : Message}
    {pending : List (Nat × Call)} (fewer : pending ⊆ l.pending)
    (own : ∀ n c query result, e = .ended n c (.search query result) →
      Asked l.entries n query) : (l.note e (l.session.receive m) pending).Sourced where
  pending := by
    intro n query filters member
    rcases mem_note member with old | ⟨_, sent⟩
    · exact (sourced.pending n query filters (fewer old)).cons e
    · cases receive_sends sent
  ended := by
    intro n c query result member
    rcases List.mem_cons.mp member with new | old
    · exact (own n c query result new.symm).cons e
    · exact (sourced.ended n c query result old).cons e

theorem Sourced.act {l : Chronicle} (sourced : l.Sourced) (a : Session.Action) :
    (l.act a).Sourced where
  pending := by
    intro n query filters member
    rcases mem_note member with old | ⟨number, sent⟩
    · exact (sourced.pending n query filters old).cons _
    · obtain ⟨given, rfl, trimmed, filled⟩ := perform_sends_search sent
      exact ⟨[], given, l.entries, rfl, number.symm, trimmed, filled⟩
  ended := by
    intro n c query result member
    rcases List.mem_cons.mp member with new | old
    · cases new
    · exact (sourced.ended n c query result old).cons _

theorem Reachable.sourced {limits : QueryLimits} {l : Chronicle} (reached : Reachable limits l) :
    l.Sourced := by
  induction reached with
  | start => exact ⟨fun n query filters sent => (by cases sent), fun n c query result told =>
      (by cases told)⟩
  | act reached a ih => exact ih.act a
  | hear reached e ih =>
    refine ih.arrival (List.Subset.refl _) ?_
    intro n c query result same
    cases same
  | finish reached request sent k answers ih =>
    refine ih.arrival List.erase_subset ?_
    intro n c query result same
    obtain ⟨n, c⟩ := request
    cases same
    cases answers with
    | search query filters result => exact ih.pending n query filters sent

/-! ### The latest search -/

/-- The latest search, with what happened since, newest first, and what before. -/
structure Latest (l : Chronicle) (query : String) (later earlier : List Entry) : Prop where
  entries : l.entries = later ++ .acted (.search query) :: earlier
  last : ∀ e ∈ later, e.searches = false

theorem mem_of_behind {α : Type} {front front' back back' : List α} {x x' : α}
    (same : front ++ x :: back = front' ++ x' :: back') (more : back.length < back'.length) :
    x' ∈ front := by
  rcases List.append_eq_append_iff.mp same with ⟨between, _, rest⟩ | ⟨between, whole, rest⟩
  · have lengths := congrArg List.length rest
    simp at lengths
    omega
  · cases between with
    | nil =>
      have lengths := congrArg List.length rest
      simp at lengths
      omega
    | cons y between =>
      cases rest
      simp [whole]

theorem Latest.own {l : Chronicle} {query : String} {later earlier : List Entry}
    (latest : l.Latest query later earlier) {n : Nat} {asked : String}
    (source : Asked l.entries n asked) (current : ¬n < earlier.length) :
    n = earlier.length ∧ Text.trim query = asked ∧ asked ≠ "" := by
  obtain ⟨later', given, earlier', shape, rfl, trimmed, filled⟩ := source
  have same := latest.entries.symm.trans shape
  rcases Nat.lt_or_ge earlier.length earlier'.length with more | fewer
  · have searched := latest.last _ (mem_of_behind same more)
    cases searched
  · have lengths : earlier'.length = earlier.length := by omega
    obtain ⟨_, tails⟩ := List.append_inj' same (by simp [lengths])
    cases tails
    exact ⟨rfl, trimmed, filled⟩

theorem Latest.foundIn_eq {l : Chronicle} {query : String} {later earlier : List Entry}
    (latest : l.Latest query later earlier) : foundIn l.entries =
      (later.findSome? Entry.finds?).getD
        (if Text.trim query = "" then [] else foundIn earlier) := by
  rw [foundIn, latest.entries, List.findSome?_append, List.findSome?_cons]
  cases later.findSome? Entry.finds? with
  | some nodes => rfl
  | none =>
    by_cases blank : Text.trim query = ""
    · simp [Entry.finds?, Session.Action.blanks, blank]
    · simp [Entry.finds?, Session.Action.blanks, blank, foundIn]

/-- Of a session that is not over: what is found is what the answer brought that came last, if no
blank search was made after it, whichever search it answers. So answers to superseded searches
change nothing exactly as long as none is pending. If none was taken since the latest search, then
what is found is nothing for a blank search, else what the latest search has found, or what was
found before it as long as it has brought nothing. -/
theorem found_by_last_answer_of_any_search {limits : QueryLimits} {l : Chronicle}
    (reached : Reachable limits l) (live : l.session.tornDown = false) :
    l.session.found = foundIn l.entries ∧
      (l.IgnoresSuperseded ↔
        ∀ n query filters, (n, .search query filters) ∈ l.pending → ¬l.Superseded n) ∧
      ∀ query later earlier, l.Latest query later earlier →
        (∀ n c asked nodes, .ended n c (.search asked (.ok nodes)) ∈ later →
          ¬n < earlier.length) →
        (Text.trim query = "" → l.session.found = []) ∧
        (Text.trim query ≠ "" →
          (∃ c asked, .ended earlier.length c (.search asked (.ok l.session.found)) ∈ later) ∨
          (∀ c asked nodes, .ended earlier.length c (.search asked (.ok nodes)) ∉ later) ∧
            l.session.found = foundIn earlier) := by
  have found := reached.found_eq live
  refine ⟨found, ignoresSuperseded_iff live, ?_⟩
  intro query later earlier latest current
  rw [latest.foundIn_eq] at found
  have own (n : Nat) (c : Call) (asked : String) (nodes : List Node)
      (member : .ended n c (.search asked (.ok nodes)) ∈ later) :
      n = earlier.length ∧ Text.trim query = asked ∧ asked ≠ "" := by
    have recorded : .ended n c (.search asked (.ok nodes)) ∈ l.entries := by
      rw [latest.entries]
      exact List.mem_append_left _ member
    exact latest.own (reached.sourced.ended n c asked _ recorded) (current n c asked nodes member)
  cases newest : later.findSome? Entry.finds? with
  | some nodes =>
    -- only an answer can have brought it, since no search was made later
    obtain ⟨e, member, finds⟩ := List.exists_of_findSome?_eq_some newest
    rcases Entry.finds_eq_some finds with searched | ⟨n, c, asked, rfl⟩
    · rw [latest.last e member] at searched
      cases searched
    · obtain ⟨rfl, trimmed, filled⟩ := own n c asked nodes member
      rw [newest, Option.getD_some] at found
      refine ⟨fun blank => absurd (trimmed.symm.trans blank) filled, fun _ => .inl ⟨c, asked, ?_⟩⟩
      rw [found]
      exact member
  | none =>
    rw [newest, Option.getD_none] at found
    refine ⟨?_, ?_⟩
    · intro blank
      rw [found, if_pos blank]
    · intro filled
      refine .inr ⟨?_, by rw [found, if_neg filled]⟩
      intro c asked nodes member
      have silent := List.findSome?_eq_none_iff.mp newest _ member
      cases silent

/-- Two searches, each made when nothing else was under way: the answer to the second is shown. -/
theorem searches_answered_in_turn :
    let node (id : String) : Node := { id, kind := .file }
    let filters : SearchFilters := ⟨({} : Criteria).allowed, some 50⟩
    let answered := (act { session := {} } (.search "first")).finish (0, .search "first" filters)
      (.search "first" (.ok [node "a"]))
    let l := (answered.act (.search " second ")).finish (2, .search "second" filters)
      (.search "second" (.ok [node "b"]))
    Reachable {} l ∧ l.session.tornDown = false ∧ l.session.found = [node "b"] ∧
      l.IgnoresSuperseded := by
  intro node filters answered l
  have new : Reachable {} _ := .start
  have first : Reachable {} answered := (new.act _).finish _ (by decide +kernel) _ (.search ..)
  have reached : Reachable {} l := (first.act _).finish _ (by decide +kernel) _ (.search ..)
  have none : l.pending = [] := by decide +kernel
  obtain ⟨found, ignores, _⟩ := found_by_last_answer_of_any_search reached rfl
  refine ⟨reached, rfl, found, ignores.mpr ?_⟩
  intro n query filters sent
  rw [none] at sent
  cases sent

/-- A search is overtaken by another one, which is answered first, or by a blank one, which clears
the list. Its answer then takes the place of what there is. -/
theorem overtaken_search_shown_late :
    let node (id : String) : Node := { id, kind := .file }
    let filters : SearchFilters := ⟨({} : Criteria).allowed, some 50⟩
    let asked := act { session := {} } (.search "first")
    let newer := (asked.act (.search "second")).finish (1, .search "second" filters)
      (.search "second" (.ok [node "b"]))
    let cleared := asked.act (.search " ")
    let late : Message := .completed (.search "first" (.ok [node "a"]))
    (Reachable {} newer ∧ newer.session.tornDown = false ∧
      (0, .search "first" filters) ∈ newer.pending ∧ newer.Superseded 0 ∧
      newer.session.found = [node "b"] ∧ (newer.session.receive late).1.found = [node "a"]) ∧
    Reachable {} cleared ∧ cleared.session.tornDown = false ∧
      (0, .search "first" filters) ∈ cleared.pending ∧ cleared.Superseded 0 ∧
      cleared.session.found = [] ∧ (cleared.session.receive late).1.found = [node "a"] := by
  intro node filters asked newer cleared late
  have first : Reachable {} asked := Reachable.start.act _
  have second : Reachable {} newer :=
    (first.act _).finish _ (by decide +kernel) _ (.search ..)
  refine ⟨⟨second, rfl, by decide +kernel, ?_, rfl, rfl⟩, first.act _, rfl, by decide +kernel, ?_, rfl,
    rfl⟩
  · exact ⟨[_], "second", asked.entries, rfl, Nat.zero_lt_one⟩
  · exact ⟨[], " ", asked.entries, rfl, Nat.zero_lt_one⟩

end Chronicle

end CodeAtlas
