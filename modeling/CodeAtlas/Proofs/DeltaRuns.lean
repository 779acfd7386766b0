import CodeAtlas.Proofs.StoreRuns

/-!
What a delta makes of a graph, and a document given as deltas. Taken at once or piece by piece a
document makes the same graph, up to nodes without an identity: a document may hold one, and a
delta that brings one is refused.
-/
namespace CodeAtlas

namespace Snapshot

/-- Both ends of every link are nodes. -/
def Closed (g : Snapshot) : Prop := ∀ l ∈ g.links, g.joins l = true

theorem insertNode_links (g : Snapshot) (n : Node) : (g.insertNode n).links = g.links := by
  unfold insertNode
  split <;> rfl

theorem contains_insertNode {g : Snapshot} {n : Node} {id : String} :
    (g.insertNode n).contains id = true ↔ id = n.id ∨ g.contains id = true := by
  unfold insertNode
  split
  · rename_i known
    constructor
    · exact Or.inr
    · rintro (same | old)
      · rw [same]
        exact known
      · exact old
  · simp only [contains, Dict.contains_iff, Dict.mem_keys_insert]

theorem insertNodes_links (g : Snapshot) (nodes : List Node) :
    (nodes.foldl (fun g n => g.insertNode n) g).links = g.links := by
  induction nodes generalizing g with
  | nil => rfl
  | cons n rest ih => rw [List.foldl_cons, ih, insertNode_links]

theorem contains_insertNodes {g : Snapshot} {nodes : List Node} {id : String} :
    (nodes.foldl (fun g n => g.insertNode n) g).contains id = true ↔
      (∃ n ∈ nodes, n.id = id) ∨ g.contains id = true := by
  induction nodes generalizing g with
  | nil => simp
  | cons n rest ih =>
    rw [List.foldl_cons, ih, contains_insertNode, List.exists_mem_cons_iff]
    constructor
    · rintro (later | same | old)
      · exact Or.inl (Or.inr later)
      · exact Or.inl (Or.inl same.symm)
      · exact Or.inr old
    · rintro ((same | later) | old)
      · exact Or.inr (Or.inl same.symm)
      · exact Or.inl later
      · exact Or.inr (Or.inr old)

end Snapshot

namespace Store

/-! ### One delta -/

theorem apply_nodeAdded (s : Store) (n : Node) : (s.apply (.nodeAdded n)).1.snapshot =
    if n.id = "" then s.snapshot else s.snapshot.insertNode n := by
  by_cases nameless : n.id = ""
  · simp [apply, objection?, nameless]
  · by_cases known : s.snapshot.contains n.id = true
    · simp [apply, objection?, change?, Snapshot.insertNode, nameless, known]
    · simp [apply, objection?, change?, replace, nameless, known]

theorem apply_nodeRemoved (s : Store) (id : String) :
    (s.apply (.nodeRemoved id)).1.snapshot = s.snapshot.eraseNode id := by
  by_cases known : s.snapshot.contains id = true
  · simp [apply, objection?, change?, replace, known]
  · simp [apply, objection?, change?, Snapshot.eraseNode, known]

theorem apply_linkAdded (s : Store) (l : Link) : (s.apply (.linkAdded l)).1.snapshot =
    if s.snapshot.joins l then s.snapshot.addLink l else s.snapshot := by
  by_cases joins : s.snapshot.joins l = true
  · simp [apply, objection?, change?, replace, joins]
  · simp [apply, objection?, joins]

theorem linkAdded_applied {s : Store} {l : Link} :
    (s.apply (.linkAdded l)).2 = .applied ↔ s.snapshot.joins l = true := by
  by_cases joins : s.snapshot.joins l = true
  · simp [apply, objection?, change?, joins]
  · simp [apply, objection?, joins]

theorem apply_linkRemoved (s : Store) (l : Link) :
    (s.apply (.linkRemoved l)).1.snapshot = s.snapshot.eraseLinks l.key := by
  by_cases found : (s.snapshot.links.any fun m => m.key = l.key) = true
  · simp [apply, objection?, change?, replace, found]
  · -- with no link of the key the graph stays, and so does each of its links
    have others : s.snapshot.links.filter (fun m => m.key ≠ l.key) = s.snapshot.links := by
      apply List.filter_eq_self.mpr
      intro m member
      simp only [List.any_eq_true, decide_eq_true_eq, not_exists, not_and] at found
      simpa using found m member
    simp only [apply, objection?, change?, found, Snapshot.eraseLinks, others]
    rfl

/-! ### Many deltas -/

def applyAll (s : Store) (ds : List Delta) : Store := ds.foldl (fun s d => (s.apply d).1) s

theorem applyAll_cons (s : Store) (d : Delta) (ds : List Delta) :
    s.applyAll (d :: ds) = (s.apply d).1.applyAll ds := rfl

theorem applyAll_append (s : Store) (ds es : List Delta) :
    s.applyAll (ds ++ es) = (s.applyAll ds).applyAll es := List.foldl_append

theorem applyAll_nodes (s : Store) (nodes : List Node) :
    (s.applyAll (nodes.map .nodeAdded)).snapshot =
      (nodes.filter (·.id ≠ "")).foldl (fun g n => g.insertNode n) s.snapshot := by
  induction nodes generalizing s with
  | nil => rfl
  | cons n rest ih =>
    rw [List.map_cons, applyAll_cons, ih, apply_nodeAdded]
    by_cases nameless : n.id = "" <;> simp [nameless]

/-- Links change no node, so whether one is taken does not depend on those before it. -/
theorem applyAll_links (s : Store) (links : List Link) :
    (s.applyAll (links.map .linkAdded)).snapshot =
      { s.snapshot with links := s.snapshot.links ++ links.filter s.snapshot.joins } := by
  induction links generalizing s with
  | nil => simp [applyAll]
  | cons l rest ih =>
    rw [List.map_cons, applyAll_cons, ih, apply_linkAdded]
    by_cases joins : s.snapshot.joins l = true
    · have same : (s.snapshot.addLink l).joins = s.snapshot.joins := rfl
      rw [if_pos joins, same, List.filter_cons_of_pos joins]
      simp [Snapshot.addLink]
    · simp [joins]

end Store

/-! ### A document as deltas -/

namespace Payload

def deltas (p : Payload) : List Delta := p.nodes.map .nodeAdded ++ p.links.map .linkAdded

def named (p : Payload) : Payload := { p with nodes := p.nodes.filter (·.id ≠ "") }

theorem applyAll_deltas (p : Payload) :
    (Store.applyAll {} p.deltas).snapshot = .ofPayload p.named := by
  rw [deltas, Store.applyAll_append, Store.applyAll_links, Store.applyAll_nodes,
    Snapshot.insertNodes_links]
  rfl

theorem named_eq_self {p : Payload} (all : ∀ n ∈ p.nodes, n.id ≠ "") : p.named = p := by
  have nodes : p.nodes.filter (·.id ≠ "") = p.nodes := by
    apply List.filter_eq_self.mpr
    intro n member
    simpa using all n member
  rw [named, nodes]

theorem ofPayload_contains {p : Payload} {id : String} :
    (Snapshot.ofPayload p).contains id = true ↔ ∃ n ∈ p.nodes, n.id = id := by
  have vacant : ¬Snapshot.empty.contains id = true := Bool.false_ne_true
  exact Snapshot.contains_insertNodes.trans (or_iff_left vacant)

/-- A store that was empty and took a document piece by piece holds the graph of the document
without its nameless nodes, and the links at such a node are left out with it. That is the graph of
the whole document exactly if every node has an identity. -/
theorem pieces_make_graph_of_named_nodes (p : Payload) :
    let g := (Store.applyAll {} p.deltas).snapshot
    g = .ofPayload p.named ∧ (g = .ofPayload p ↔ ∀ n ∈ p.nodes, n.id ≠ "") := by
  intro g
  have pieces : g = .ofPayload p.named := applyAll_deltas p
  refine ⟨pieces, ?_, ?_⟩
  · intro same n member nameless
    have bulk : (Snapshot.ofPayload p).contains "" = true :=
      ofPayload_contains.mpr ⟨n, member, nameless⟩
    rw [← same, pieces, ofPayload_contains] at bulk
    obtain ⟨m, kept, unnamed⟩ := bulk
    have passed := (List.mem_filter.mp kept).2
    simp [unnamed] at passed
  · intro all
    rw [pieces, named_eq_self all]

/-- A node without an identity and a loop at it: the document has both, the deltas bring neither. -/
theorem nameless_node_comes_only_in_bulk :
    let p : Payload := ⟨[{ id := "", kind := .file }], [⟨.bare "", .bare "", .calls⟩]⟩
    (Store.applyAll {} p.deltas).snapshot ≠ .ofPayload p ∧
      (Store.applyAll {} p.deltas).snapshot.isEmpty = true ∧
      (Snapshot.ofPayload p).links.map Link.key = [⟨"", "", .calls⟩] := by
  intro p
  refine ⟨?_, rfl, rfl⟩
  intro same
  have counts := congrArg (fun g : Snapshot => g.nodes.length) same
  revert counts
  decide

end Payload

end CodeAtlas
