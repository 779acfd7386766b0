import CodeAtlas.Proofs.GraphRevisions
import CodeAtlas.Proofs.StaleDetails

/-!
What is selected and hovered, with a graph that changes underneath. Details are always those of the
node that is selected. Whenever the graph has become another one, a node that is gone is let go of,
and one that is still there stays selected with its details.
-/
namespace CodeAtlas

/-- What of a selection is in a graph. -/
def Selection.within (g : Snapshot) (choice : Selection) : Selection :=
  ⟨choice.selected.filter g.contains, choice.hovered.filter g.contains⟩

namespace Session

def Matched (s : Session) : Prop := ∀ d, s.details = some d → s.selection.selected = some d.id

/-- Selection and details lose what is not in a graph, and nothing else. -/
structure Narrowed (g : Snapshot) (s t : Session) : Prop where
  selection : t.selection = s.selection.within g
  details : t.details = s.details.filter fun d => g.contains d.id

theorem matched_of_same {s t : Session} (matched : s.Matched)
    (selected : t.selection.selected = s.selection.selected) (details : t.details = s.details) :
    t.Matched := by
  intro d shown
  rw [details] at shown
  rw [selected]
  exact matched d shown

theorem Narrowed.matched {g : Snapshot} {s t : Session} (narrowed : s.Narrowed g t)
    (matched : s.Matched) : t.Matched := by
  intro d shown
  rw [narrowed.details] at shown
  obtain ⟨known, there⟩ := Option.filter_eq_some_iff.mp shown
  rw [narrowed.selection, Selection.within, matched d known]
  exact Option.filter_eq_some_iff.mpr ⟨rfl, there⟩

/-! ### Forgetting -/

theorem filter_of_gone {o : Option String} {g : Snapshot}
    (gone : (o.any fun id => !g.contains id) = true) : o.filter g.contains = none := by
  cases o with
  | none => rfl
  | some id => simpa using gone

theorem filter_of_kept {o : Option String} {g : Snapshot}
    (kept : ¬(o.any fun id => !g.contains id) = true) : o.filter g.contains = o := by
  cases o with
  | none => rfl
  | some id => simpa using kept

theorem forgetMissing_selection (s : Session) :
    s.forgetMissing.selection = s.selection.within s.store.snapshot := by
  unfold forgetMissing Selection.within
  dsimp only
  split
  · rename_i gone
    rw [filter_of_gone gone]
    split
    · rename_i also
      rw [filter_of_gone also]
    · rename_i hovered
      rw [filter_of_kept hovered]
  · rename_i kept
    rw [filter_of_kept kept]
    split
    · rename_i gone
      rw [filter_of_gone gone]
    · rename_i hovered
      rw [filter_of_kept hovered]

theorem forgetMissing_details {s : Session} (matched : s.Matched) :
    s.forgetMissing.details = s.details.filter fun d => s.store.snapshot.contains d.id := by
  have cases : s.forgetMissing.details =
      if (s.selection.selected.any fun id => !s.store.snapshot.contains id) = true then none
      else s.details := by
    unfold forgetMissing
    dsimp only
    split <;> split <;> rfl
  rw [cases]
  cases shown : s.details with
  | none => simp
  | some d =>
    rw [matched d shown]
    cases there : s.store.snapshot.contains d.id <;> simp [Option.filter_some, there]

theorem forgetMissing_narrowed {s t : Session} (matched : s.Matched)
    (selection : t.selection = s.selection) (details : t.details = s.details) :
    s.Narrowed t.forgetMissing.store.snapshot t.forgetMissing := by
  have alike : t.Matched := matched_of_same matched (by rw [selection]) details
  constructor
  · rw [forgetMissing_selection, (forgetMissing_keeps t).1, selection]
  · rw [forgetMissing_details alike, (forgetMissing_keeps t).1, details]

theorem forgetMissing_matched {s : Session} (matched : s.Matched) : s.forgetMissing.Matched :=
  (forgetMissing_narrowed matched rfl rfl).matched matched

theorem narrowed_to_empty {s t : Session} (selection : t.selection = {})
    (details : t.details = none) : s.Narrowed .empty t := by
  have emptied (o : Option String) : o.filter Snapshot.empty.contains = none := by
    cases o <;> rfl
  constructor
  · rw [selection, Selection.within, emptied, emptied]
  · rw [details]
    cases s.details <;> rfl

/-! ### Actions and arrivals -/

theorem perform_matched {s : Session} (matched : s.Matched) (a : Action) :
    (s.perform a).1.Matched := by
  cases selects : s.selects a with
  | false =>
    obtain ⟨selected, details⟩ := perform_selected selects
    exact matched_of_same matched selected details
  | true =>
    cases a with
    | select id =>
      have other : s.selection.selected ≠ id := by simpa [Session.selects] using selects
      obtain ⟨_, none, _⟩ := select_selected other
      intro d shown
      rw [none] at shown
      cases shown
    | _ => cases selects

theorem revises_cleared {s : Session} {result : Except Failure Bool}
    (revises : s.revises (.completed (.cleared result)) = true) :
    s.tornDown = false ∧ result = .ok true := by
  cases result with
  | error why => cases revises
  | ok done =>
    cases done with
    | false => cases revises
    | true => exact ⟨by simpa [Session.revises] using revises, rfl⟩

theorem receive_applied {s : Session} (live : s.tornDown = false) {d : Delta}
    (applied : (s.store.apply d).2 = .applied) : (s.receive (.connection (.push (.delta d)))).1 =
      forgetMissing { s with store := (s.store.apply d).1 } := by
  simp [receive, live, applied, quiet]

theorem receive_narrowed {s : Session} (matched : s.Matched) {m : Message}
    (revises : s.revises m = true) :
    s.Narrowed (s.receive m).1.store.snapshot (s.receive m).1 := by
  unfold Session.revises at revises
  split at revises
  · rename_i r p
    rw [receive_completed (by simpa using revises)]
    exact forgetMissing_narrowed matched rfl rfl
  · rw [receive_completed (by simpa using revises)]
    exact narrowed_to_empty rfl rfl
  · rename_i d
    obtain ⟨live, applied⟩ : s.tornDown = false ∧ (s.store.apply d).2 = .applied := by
      simpa using revises
    rw [receive_applied live applied]
    exact forgetMissing_narrowed matched rfl rfl
  · cases revises

theorem complete_matched {s : Session} (matched : s.Matched) (k : Completion) :
    (s.complete k).Matched := by
  cases k with
  | graph r result =>
    cases result with
    | ok p => exact forgetMissing_matched (matched_of_same matched rfl rfl)
    | error why => exact matched_of_same matched rfl rfl
  | cleared result =>
    cases result with
    | ok done =>
      cases done with
      | true => exact (narrowed_to_empty rfl rfl).matched matched
      | false => exact matched_of_same matched rfl rfl
    | error why => exact matched_of_same matched rfl rfl
  | stats result => exact matched_of_same matched rfl rfl
  | details id result =>
    -- the only details that are taken are those of the selection
    simp only [complete]
    split
    · rename_i selected
      intro d shown
      obtain ⟨value, _, same⟩ := Option.map_eq_some_iff.mp shown
      rw [← same]
      exact selected
    · exact matched
  | paths result | search query result | artifact format result =>
    cases result <;> exact matched_of_same matched rfl rfl

theorem receive_matched {s : Session} (matched : s.Matched) (m : Message) :
    (s.receive m).1.Matched := by
  unfold receive
  split
  · exact matched
  · cases m with
    | completed k => exact complete_matched matched k
    | connection e =>
      cases e with
      | state state => exact matched_of_same matched rfl rfl
      | push e =>
        cases e with
        | graphUpdated =>
          obtain ⟨selection, details⟩ := requestGraph_selection .refresh s
          exact matched_of_same matched (by rw [refresh, selection]) details
        | ignored kind => exact matched
        | delta d =>
          dsimp only [quiet]
          split
          · exact forgetMissing_matched (matched_of_same matched rfl rfl)
          · exact matched_of_same matched rfl rfl

theorem receiveAll_matched {s : Session} (matched : s.Matched) (messages : List Message) :
    (s.receiveAll messages).1.Matched := by
  rw [receiveAll_session]
  induction messages generalizing s with
  | nil => exact matched
  | cons m rest ih => exact ih (receive_matched matched m)

theorem follow_matched {s : Session} (matched : s.Matched) (events : List Event) :
    (s.follow events).Matched := by
  induction events generalizing s with
  | nil => exact matched
  | cons e rest ih =>
    apply ih
    cases e with
    | act a => exact perform_matched matched a
    | pump messages => exact receiveAll_matched matched messages

/-- Whatever the user did and whatever has arrived, in any order: details that are known are those of
the node that is selected. When a delta was applied, a graph has come or the graph was cleared, what
is selected and what is hovered are nodes of the graph; a node of the graph that was selected still
is, with the details that were known; and a clearing leaves neither selection nor details. -/
theorem details_fit_selection_and_selection_fits_graph (limits : QueryLimits)
    (events : List Event) :
    let s := follow { limits } events
    (∀ d, s.details = some d → s.selection.selected = some d.id) ∧
      ∀ m, s.revises m = true →
        let t := (s.receive m).1
        (∀ id, t.selection.selected = some id → t.store.snapshot.contains id = true) ∧
          (∀ id, t.selection.hovered = some id → t.store.snapshot.contains id = true) ∧
          (∀ id, s.selection.selected = some id → t.store.snapshot.contains id = true →
            t.selection.selected = some id ∧ t.details = s.details) ∧
          (∀ id, s.selection.hovered = some id → t.store.snapshot.contains id = true →
            t.selection.hovered = some id) ∧
          ∀ result, m = .completed (.cleared result) → t.selection = {} ∧ t.details = none := by
  intro s
  have matched : s.Matched := follow_matched (by intro d shown; cases shown) events
  refine ⟨matched, ?_⟩
  intro m revises t
  have narrowed : s.Narrowed t.store.snapshot t := receive_narrowed matched revises
  have selected : t.selection.selected = s.selection.selected.filter t.store.snapshot.contains :=
    congrArg Selection.selected narrowed.selection
  have hovered : t.selection.hovered = s.selection.hovered.filter t.store.snapshot.contains :=
    congrArg Selection.hovered narrowed.selection
  refine ⟨?_, ?_, ?_, ?_, ?_⟩
  · intro id shown
    rw [selected] at shown
    exact (Option.filter_eq_some_iff.mp shown).2
  · intro id shown
    rw [hovered] at shown
    exact (Option.filter_eq_some_iff.mp shown).2
  · intro id before there
    rw [selected, narrowed.details, before]
    refine ⟨Option.filter_eq_some_iff.mpr ⟨rfl, there⟩, ?_⟩
    cases shown : s.details with
    | none => rfl
    | some d =>
      have same : d.id = id := Option.some.inj ((matched d shown).symm.trans before)
      exact Option.filter_eq_some_iff.mpr ⟨rfl, by rw [same, there]⟩
  · intro id before there
    rw [hovered, before]
    exact Option.filter_eq_some_iff.mpr ⟨rfl, there⟩
  · rintro result rfl
    obtain ⟨live, rfl⟩ := revises_cleared revises
    have taken : t = s.complete (.cleared (.ok true)) := receive_completed live _
    rw [taken]
    exact ⟨rfl, rfl⟩

/-- A node is selected and its details have come, and then the one that is hovered is removed. -/
theorem removal_of_hovered_keeps_selection :
    let node (id : String) : Node := { id, kind := .file }
    let events : List Event := [
      .pump [.completed (.graph .refresh (.ok ⟨[node "a", node "b"], []⟩))],
      .act (.select (some "a")), .pump [.completed (.details "a" (.ok .null))],
      .act (.hover (some "b"))]
    let s := follow {} events
    let removal : Message := .connection (.push (.delta (.nodeRemoved "b")))
    let t := (s.receive removal).1
    s.revises removal = true ∧ s.selection = ⟨some "a", some "b"⟩ ∧
      s.selection.selected = some "a" ∧ t.selection.selected = some "a" ∧
      t.details = some ⟨"a", .null⟩ ∧ t.selection.hovered = none := by
  intro node events s removal t
  have revises : s.revises removal = true := by decide
  obtain ⟨fits, follows⟩ := details_fit_selection_and_selection_fits_graph {} events
  obtain ⟨_, _, kept, _, _⟩ := follows removal revises
  obtain ⟨selected, details⟩ := kept "a" rfl (by decide)
  exact ⟨revises, rfl, fits ⟨"a", .null⟩ rfl, selected, details, by decide⟩

end Session

end CodeAtlas
