import CodeAtlas.Proofs.RevisionKeys
import CodeAtlas.Proofs.StaleDetails
import CodeAtlas.Proofs.ViewerRuns
import Mathlib.Data.Prod.Lex

/-!
The nodes that are listed beside the selected node as connected. The list is made of the neighbours
that are emphasised, and the emphasis follows what is hovered before what is selected. So it belongs
to the selected node unless another one is hovered that has other neighbours.
-/
namespace CodeAtlas

namespace Snapshot

theorem id_of_found {g : Snapshot} (wf : g.WellFormed) {id : String} {n : Node}
    (found : g.node? id = some n) : n.id = id :=
  wf.own_key id n (Dict.mem_of_find found)

theorem ids_of_found {g : Snapshot} (wf : g.WellFormed) (ids : List String) :
    (ids.filterMap g.node?).map (·.id) = ids.filter g.contains := by
  induction ids with
  | nil => rfl
  | cons id rest ih =>
    cases found : g.node? id with
    | none =>
      have absent : g.contains id = false := by
        rw [contains, Dict.contains, show g.nodes.find? id = none from found]
        rfl
      rw [List.filterMap_cons_none found, List.filter_cons_of_neg (by simp [absent]), ih]
    | some n =>
      have present : g.contains id = true := by
        rw [contains, Dict.contains, show g.nodes.find? id = some n from found]
        rfl
      rw [List.filterMap_cons_some found, List.filter_cons_of_pos present, List.map_cons, ih,
        id_of_found wf found]

theorem contains_of_shown {g : Snapshot} (wf : g.WellFormed) {c : Criteria} {id : String}
    (shown : id ∈ (View.of g c).nodes.map (·.id)) : g.contains id = true := by
  obtain ⟨n, member, rfl⟩ := List.mem_map.mp shown
  obtain ⟨⟨key, m⟩, entry, rfl⟩ := List.mem_map.mp (List.mem_filter.mp member).1
  rw [contains, Dict.contains_iff, Dict.mem_keys, wf.own_key key m entry]
  exact ⟨m, entry⟩

end Snapshot

namespace Viewer

/-! ### The list -/

/-- A link that is shown joins a node to another one. -/
def Adjacent (v : Viewer) (id other : String) : Prop :=
  other ≠ id ∧ ∃ l ∈ v.view.links, Highlight.Joins id other l

theorem adjacent_iff {v : Viewer} {id other : String} :
    v.Adjacent id other ↔ other ∈ Highlight.neighborsOf id v.view.links :=
  Highlight.mem_neighborsOf.symm

def listingKey (n : Node) : String ×ₗ String ×ₗ String := toLex (n.label, toLex (n.kind.tag, n.id))

/-- A list has exactly the nodes joined to one of them, as the graph has them, each once and in
order. -/
structure ListsNeighbors (v : Viewer) (id : String) (nodes : List Node) : Prop where
  sorted : nodes.Pairwise fun a b => listingKey a < listingKey b
  once : (nodes.map (·.id)).Nodup
  own : ∀ n ∈ nodes, v.snapshot.node? n.id = some n
  adjacent : ∀ other, other ∈ nodes.map (·.id) ↔ v.Adjacent id other

theorem nodeBefore_iff {a b : Node} : nodeBefore a b = true ↔ listingKey a < listingKey b := by
  simp only [nodeBefore, listingKey, Prod.Lex.toLex_lt_toLex, Bool.or_eq_true, Bool.and_eq_true,
    decide_eq_true_eq]

theorem not_nodeBefore_iff {a b : Node} : (!nodeBefore b a) = true ↔ listingKey a ≤ listingKey b := by
  rw [Bool.not_eq_true', ← Bool.not_eq_true, nodeBefore_iff, not_lt]

theorem id_of_listingKey {a b : Node} (same : listingKey a = listingKey b) : a.id = b.id :=
  congrArg (fun k : String ×ₗ String ×ₗ String => (ofLex (ofLex k).2).2) same

theorem contains_of_adjacent {v : Viewer} (wf : v.snapshot.WellFormed) {id other : String}
    (adjacent : v.Adjacent id other) : v.snapshot.contains other = true := by
  obtain ⟨_, l, member, joined⟩ := adjacent
  obtain ⟨source, target⟩ := View.ends_shown member
  rcases joined with ⟨_, rfl⟩ | ⟨rfl, _⟩
  · exact Snapshot.contains_of_shown wf target
  · exact Snapshot.contains_of_shown wf source

theorem connectedNodes_lists {v : Viewer} (wf : v.snapshot.WellFormed)
    (fits : v.highlight.Fits v.view) {id : String} (focus : v.highlight.focus = some id) :
    v.ListsNeighbors id v.connectedNodes := by
  have perm : v.connectedNodes.Perm (v.highlight.neighbors.filterMap v.snapshot.node?) :=
    List.mergeSort_perm _ _
  have ids : (v.connectedNodes.map (·.id)).Perm (v.highlight.neighbors.filter v.snapshot.contains) :=
    Snapshot.ids_of_found wf v.highlight.neighbors ▸ perm.map (·.id)
  have once : (v.connectedNodes.map (·.id)).Nodup := ids.nodup_iff.mpr (fits.nodup.filter _)
  refine ⟨?_, once, ?_, ?_⟩
  · have ordered : v.connectedNodes.Pairwise fun a b => (!nodeBefore b a) = true := by
      apply List.pairwise_mergeSort
      · intro a b c first second
        rw [not_nodeBefore_iff] at first second ⊢
        exact first.trans second
      · intro a b
        rw [Bool.or_eq_true, not_nodeBefore_iff, not_nodeBefore_iff]
        exact le_total _ _
    refine (ordered.and (List.pairwise_map.mp once)).imp ?_
    rintro a b ⟨before, other⟩
    exact lt_of_le_of_ne (not_nodeBefore_iff.mp before) fun same => other (id_of_listingKey same)
  · intro n member
    obtain ⟨key, _, found⟩ := List.mem_filterMap.mp (perm.mem_iff.mp member)
    rwa [Snapshot.id_of_found wf found]
  · intro other
    have neighbor : other ∈ v.highlight.neighbors ↔ v.Adjacent id other := by
      rw [fits.mem_iff, focus]
      simp [Adjacent]
    rw [ids.mem_iff, List.mem_filter, neighbor]
    exact ⟨And.left, fun adjacent => ⟨adjacent, contains_of_adjacent wf adjacent⟩⟩

theorem ListsNeighbors.of_same {v : Viewer} {id id' : String} {nodes : List Node}
    (lists : v.ListsNeighbors id nodes) (same : ∀ other, v.Adjacent id other ↔ v.Adjacent id' other) :
    v.ListsNeighbors id' nodes :=
  ⟨lists.sorted, lists.once, lists.own, fun other => (lists.adjacent other).trans (same other)⟩

theorem ListsNeighbors.same {v : Viewer} {id id' : String} {nodes : List Node}
    (lists : v.ListsNeighbors id nodes) (lists' : v.ListsNeighbors id' nodes) (other : String) :
    v.Adjacent id other ↔ v.Adjacent id' other :=
  (lists.adjacent other).symm.trans (lists'.adjacent other)

theorem selectedPieces_end {v : Viewer} {n : Node} (selected : v.selected = some n.id)
    (there : v.snapshot.node? n.id = some n) (unfolded : List Fold) :
    ∃ front, v.selectedPieces unfolded = front ++
      [Piece.label s!"Connected nodes ({v.connectedNodes.length})",
        Piece.row (v.connectedNodes.map fun m =>
          Item.button (nodeWords m.label m.kind.tag) (.visit m.id))] := by
  simp only [selectedPieces, selected, there, nodePieces]
  exact ⟨_, List.append_assoc _ [v.detailPiece unfolded n.id] _ |>.symm⟩

end Viewer

/-! ### Runs -/

namespace Watch

/-- The neighbours that are emphasised are those in the view under the key of the last sync. The
graph of that view was the present one, some changes ago. -/
structure Attuned (w : Watch) : Prop where
  store : Store.Revised w.changes {} w.viewer.session.store
  synced : ∀ key, w.viewer.synced = some key →
    ∃ old n, n ≤ w.changes ∧ Store.Revised n old w.viewer.session.store ∧
      old.revision = key.revision ∧ w.viewer.highlight.Fits (View.of old.snapshot key.criteria)

theorem Attuned.wellFormed {w : Watch} (attuned : w.Attuned) : w.viewer.snapshot.WellFormed :=
  attuned.store.wellFormed Snapshot.empty_wellFormed

theorem start_attuned (s : Settings) (disk : Disk) : Attuned ⟨.ofSettings s disk, 0, []⟩ where
  store := Store.revised_of_same rfl rfl
  synced := by
    intro key synced
    cases synced

theorem steady_attuned {w : Watch} (attuned : w.Attuned) {v : Viewer}
    (steady : ∀ shown, w.viewer.Steady shown v) : Attuned { w with viewer := v } := by
  have one := steady ⟨[], []⟩
  refine ⟨attuned.store.trans one.store, ?_⟩
  intro key synced
  obtain ⟨old, n, earlier, revised, revision, fits⟩ := attuned.synced key (one.synced ▸ synced)
  exact ⟨old, n, earlier, revised.trans one.store, revision, (steady _).emphasis fits⟩

theorem sync_fits {w : Watch} (attuned : w.Attuned) {inbox : List Message} {viewport : Vec Float32}
    (few : (w.sync inbox viewport).changes < UInt64.size) :
    (w.viewer.sync inbox viewport).highlight.Fits (w.viewer.sync inbox viewport).view := by
  rw [Viewer.sync_view]
  rcases w.viewer.sync_cases inbox viewport with laid | ⟨kept, fresh⟩
  · rw [laid]
    rfl
  · rw [kept]
    apply (Viewer.refreshHighlight_steady false _).emphasis
    obtain ⟨old, n, earlier, revised, revision, fits⟩ := attuned.synced _ fresh
    have since := revised.trans (Viewer.taken_revised inbox w.viewer)
    have count : n + w.viewer.session.revisions inbox < UInt64.size :=
      Nat.lt_of_le_of_lt (Nat.add_le_add_right earlier _) few
    have graph := since.same_graph count revision.symm
    have marks := (w.viewer.taken_marks inbox).2
    simp only [Viewer.marks, Prod.mk.injEq] at marks
    rw [marks.1, Viewer.view, Viewer.snapshot, graph]
    exact fits

theorem sync_attuned {w : Watch} (attuned : w.Attuned) {inbox : List Message}
    {viewport : Vec Float32} (few : (w.sync inbox viewport).changes < UInt64.size) {v : Viewer}
    (steady : (w.sync inbox viewport).viewer.Steady (w.sync inbox viewport).viewer.view v) :
    Attuned { w.sync inbox viewport with viewer := v } := by
  refine ⟨(attuned.store.trans (w.sync_revised inbox viewport)).trans steady.store, ?_⟩
  intro key found
  have present : key = (w.sync inbox viewport).viewer.syncKey :=
    Option.some.inj ((found.symm.trans steady.synced).trans (w.viewer.sync_synced inbox viewport))
  subst present
  exact ⟨_, 0, Nat.zero_le _, steady.store, rfl, steady.emphasis (sync_fits attuned few)⟩

theorem follow_attuned {w : Watch} (attuned : w.Attuned) {e : Event}
    (few : (w.follow e).changes < UInt64.size) : (w.follow e).Attuned := by
  cases e with
  | perform a => exact steady_attuned attuned fun shown => Viewer.perform_steady shown w.viewer a
  | use c now => exact steady_attuned attuned fun shown => Viewer.use_steady shown c now w.viewer
  | tune wanted => exact steady_attuned attuned (w.viewer.tune_idles wanted).steady
  | adjust other =>
    refine steady_attuned attuned fun shown => Viewer.Idles.steady ?_ shown
    exact Viewer.idles_of_same rfl rfl rfl
  | frame area g m inbox =>
    exact sync_attuned attuned few (Viewer.frame_steady area g m inbox w.viewer)

theorem foldl_attuned {w : Watch} (attuned : w.Attuned) {events : List Event}
    (few : (events.foldl follow w).changes < UInt64.size) : (events.foldl follow w).Attuned := by
  induction events generalizing w with
  | nil => exact attuned
  | cons e rest ih =>
    have grows := (foldl_grows (w.follow e) rest).1
    exact ih (follow_attuned attuned (Nat.lt_of_le_of_lt grows few)) few

theorem run_attuned (s : Settings) (disk : Disk) (events : List Event)
    (few : (run s disk events).changes < UInt64.size) : (run s disk events).Attuned :=
  foldl_attuned (start_attuned s disk) few

theorem sync_lists {s : Settings} {disk : Disk} {events : List Event} {inbox : List Message}
    {viewport : Vec Float32} {v : Viewer} {id : String} {hovered : Option String}
    (few : ((run s disk events).sync inbox viewport).changes < UInt64.size)
    (synced : (run s disk events).viewer.sync inbox viewport = v)
    (selection : v.session.selection = ⟨some id, hovered⟩) :
    v.ListsNeighbors (hovered.getD id) v.connectedNodes := by
  subst synced
  have attuned := run_attuned s disk events (Nat.lt_of_le_of_lt (Nat.le_add_right _ _) few)
  have revised := sync_revised (run s disk events) inbox viewport
  have focus := ((run s disk events).viewer.sync_marks inbox viewport).1
  rw [selection] at focus
  refine Viewer.connectedNodes_lists (revised.wellFormed attuned.wellFormed)
    (sync_fits attuned few) (focus.trans ?_)
  cases hovered <;> rfl

def pointing (selected : String) (hovered : Option String) : List Event :=
  [.perform (.select (some selected)), .perform (.setCriteria {}), .perform (.hover hovered)]

theorem foldl_pointing (w : Watch) (selected : String) (hovered : Option String) :
    let v := ((pointing selected hovered).foldl follow w).viewer.sync [] Vec.zero
    v.session.selection = ⟨some selected, hovered⟩ ∧ v.snapshot = w.viewer.snapshot ∧
      v.session.criteria = {} := by
  intro v
  have chosen := Session.select_sets w.viewer.session (some selected)
  have steady := Viewer.perform_steady ⟨[], []⟩ w.viewer (.select (some selected))
  have session : v.session =
      { (w.viewer.session.perform (.select (some selected))).1 with
        criteria := {}
        selection := ⟨(w.viewer.session.perform (.select (some selected))).1.selection.selected,
          hovered⟩
        artifact := none } := by
    rw [Viewer.sync_session, Viewer.taken_session]
    rfl
  refine ⟨?_, ?_, ?_⟩
  · rw [session, chosen]
  · rw [Viewer.snapshot, session]
    exact steady.store.snapshot rfl
  · rw [session]

def showing (p : Payload) : Event :=
  .frame ⟨Vec.zero, Vec.zero⟩ {} ⟨0, 0⟩ [.completed (.graph .refresh (.ok p))]

theorem follow_showing (w : Watch) (p : Payload) : (w.follow (showing p)).viewer.snapshot =
    (w.viewer.session.receiveAll [.completed (.graph .refresh (.ok p))]).1.store.snapshot :=
  Viewer.frame_snapshot _ _ _ _ w.viewer

def pointed (p : Payload) (selected : String) (hovered : Option String) : List Event :=
  showing p :: pointing selected hovered

theorem pointed_state (p : Payload) (selected : String) (hovered : Option String) :
    let w := run {} {} (pointed p selected hovered)
    let v := w.viewer.sync [] Vec.zero
    (w.sync [] Vec.zero).changes < UInt64.size ∧ v.session.selection = ⟨some selected, hovered⟩ ∧
      v.snapshot = .ofPayload p ∧ v.view = View.of (.ofPayload p) {} := by
  intro w v
  let start : Watch := ⟨.ofSettings {} {}, 0, []⟩
  have graph : (start.follow (showing p)).viewer.snapshot = .ofPayload p := by
    rw [follow_showing]
    rfl
  -- as a step of its own, since a comparison of the two runs would carry the frame out
  have ran : w = (pointing selected hovered).foldl follow (start.follow (showing p)) :=
    List.foldl_cons
  have synced := congrArg (fun w : Watch => w.viewer.sync [] Vec.zero) ran
  obtain ⟨selection, kept, criteria⟩ := foldl_pointing (start.follow (showing p)) selected hovered
  rw [← synced] at selection kept criteria
  have once : (w.sync [] Vec.zero).changes = 1 := rfl
  refine ⟨?_, selection, kept.trans graph, ?_⟩
  · rw [once]
    decide
  · rw [Viewer.view, kept.trans graph, criteria]

/-- Whatever was done since the viewer was new: after a sync with a node selected, its panel ends in
a list of connected nodes. They are those joined to the node that is hovered, or to the selected one
if none is, by links of the present view, each once and in the order of label, kind and identity. So
it is the list of the selected node exactly if no node is joined to just one of the two. -/
theorem connected_nodes_listed_of_hovered_else_selected (s : Settings) (disk : Disk)
    (events : List Event) (inbox : List Message) (viewport : Vec Float32)
    (few : ((run s disk events).sync inbox viewport).changes < UInt64.size) :
    let v := (run s disk events).viewer.sync inbox viewport
    ∀ n, v.selected = some n.id → v.snapshot.node? n.id = some n →
      let focus := v.session.selection.hovered.getD n.id
      (∀ unfolded, ∃ front, v.selectedPieces unfolded = front ++
        [Piece.label s!"Connected nodes ({v.connectedNodes.length})",
          Piece.row (v.connectedNodes.map fun m =>
            Item.button (Viewer.nodeWords m.label m.kind.tag) (.visit m.id))]) ∧
        v.ListsNeighbors focus v.connectedNodes ∧
        (v.ListsNeighbors n.id v.connectedNodes ↔
          ∀ other, v.Adjacent focus other ↔ v.Adjacent n.id other) := by
  intro v n selected there focus
  have selection : v.session.selection = ⟨some n.id, v.session.selection.hovered⟩ := by
    rw [← selected]
    rfl
  have lists : v.ListsNeighbors focus v.connectedNodes := sync_lists few rfl selection
  exact ⟨Viewer.selectedPieces_end selected there, lists, lists.same, lists.of_same⟩

/-- In a square one corner is selected and the opposite one is hovered. Both are joined to the other
two corners. -/
theorem opposite_corner_hovered :
    let node (id : String) : Node := { id, kind := .file }
    let link (source target : String) : Link := ⟨.bare source, .bare target, .calls⟩
    let square : Payload := ⟨[node "a", node "b", node "c", node "d"],
      [link "a" "b", link "c" "b", link "c" "d", link "d" "a"]⟩
    let w := run {} {} (pointed square "c" (some "a"))
    let v := w.viewer.sync [] Vec.zero
    (w.sync [] Vec.zero).changes < UInt64.size ∧ v.selected = some "c" ∧
      v.snapshot.node? "c" = some (node "c") ∧ v.ListsNeighbors "c" v.connectedNodes ∧
      "b" ∈ v.connectedNodes.map (·.id) ∧ "a" ∉ v.connectedNodes.map (·.id) := by
  intro node link square w v
  obtain ⟨few, selection, graph, view⟩ := pointed_state square "c" (some "a")
  have selected : v.selected = some "c" := congrArg Selection.selected selection
  have there : v.snapshot.node? "c" = some (node "c") := by
    rw [graph]
    cbv
  have corners : Highlight.neighborsOf "a" (View.of (.ofPayload square) {}).links = ["b", "d"] ∧
      Highlight.neighborsOf "c" (View.of (.ofPayload square) {}).links = ["b", "d"] := by
    decide +kernel
  obtain ⟨_, _, listed⟩ := connected_nodes_listed_of_hovered_else_selected {} {} _ [] Vec.zero few
    (node "c") selected there
  have lists : v.ListsNeighbors "c" v.connectedNodes := by
    apply listed.mpr
    intro other
    rw [selection, Viewer.adjacent_iff, Viewer.adjacent_iff, view]
    exact iff_of_eq (congrArg (other ∈ ·) (corners.1.trans corners.2.symm))
  refine ⟨few, selected, there, lists, ?_, ?_⟩
  · rw [lists.adjacent, Viewer.adjacent_iff, view, corners.2]
    decide
  · rw [lists.adjacent, Viewer.adjacent_iff, view, corners.2]
    decide

/-- In a chain one node is selected and the far end is hovered. A neighbour of the selected node is
missing from its list. -/
theorem hovered_end_takes_list_of_selected :
    let node (id : String) : Node := { id, kind := .file }
    let link (source target : String) : Link := ⟨.bare source, .bare target, .calls⟩
    let chain : Payload := ⟨[node "a", node "b", node "c", node "d"],
      [link "a" "b", link "b" "c", link "c" "d"]⟩
    let w := run {} {} (pointed chain "c" (some "a"))
    let v := w.viewer.sync [] Vec.zero
    (w.sync [] Vec.zero).changes < UInt64.size ∧ v.selected = some "c" ∧
      v.snapshot.node? "c" = some (node "c") ∧ v.Adjacent "c" "d" ∧
      "d" ∉ v.connectedNodes.map (·.id) ∧ ¬v.ListsNeighbors "c" v.connectedNodes := by
  intro node link chain w v
  obtain ⟨few, selection, graph, view⟩ := pointed_state chain "c" (some "a")
  have selected : v.selected = some "c" := congrArg Selection.selected selection
  have there : v.snapshot.node? "c" = some (node "c") := by
    rw [graph]
    cbv
  have ends : Highlight.neighborsOf "a" (View.of (.ofPayload chain) {}).links = ["b"] ∧
      Highlight.neighborsOf "c" (View.of (.ofPayload chain) {}).links = ["b", "d"] := by
    decide +kernel
  have adjacent : v.Adjacent "c" "d" := by
    rw [Viewer.adjacent_iff, view, ends.2]
    decide
  have lists : v.ListsNeighbors "a" v.connectedNodes := sync_lists few rfl selection
  have missing : "d" ∉ v.connectedNodes.map (·.id) := by
    rw [lists.adjacent, Viewer.adjacent_iff, view, ends.1]
    decide
  refine ⟨few, selected, there, adjacent, missing, ?_⟩
  intro own
  exact missing ((own.adjacent "d").mpr adjacent)

end Watch

end CodeAtlas
