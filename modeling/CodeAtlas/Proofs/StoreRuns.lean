import CodeAtlas.Graph.Store
import CodeAtlas.Proofs.Dict

/-!
Runs of the store. Documents may list an identity twice and links without ends, and deltas may
come in any order; the graph that the store holds is well formed all the same.
-/
namespace CodeAtlas

namespace Snapshot

/-- Nodes stand in order under their own identities, and both ends of every link are nodes. -/
structure WellFormed (g : Snapshot) : Prop where
  sorted : g.nodes.Sorted
  own_key : ∀ key n, (key, n) ∈ g.nodes → n.id = key
  joined : ∀ l ∈ g.links, l.source.id ∈ g.nodes.keys ∧ l.target.id ∈ g.nodes.keys

theorem joins_iff {g : Snapshot} {l : Link} :
    g.joins l = true ↔ l.source.id ∈ g.nodes.keys ∧ l.target.id ∈ g.nodes.keys := by
  simp only [joins, contains, Bool.and_eq_true, Dict.contains_iff]

theorem empty_wellFormed : WellFormed empty where
  sorted := List.Pairwise.nil
  own_key := by intro key n member; cases member
  joined := by intro l member; cases member

theorem insertNode_wellFormed {g : Snapshot} (wf : g.WellFormed) (n : Node) :
    (g.insertNode n).WellFormed := by
  unfold insertNode
  split
  · exact wf
  · refine ⟨Dict.sorted_insert wf.sorted n.id n, ?_, ?_⟩
    · intro key m member
      rcases Dict.mem_insert member with new | old
      · cases new
        rfl
      · exact wf.own_key key m old
    · intro l member
      obtain ⟨source, target⟩ := wf.joined l member
      exact ⟨Dict.mem_keys_insert.mpr (Or.inr source), Dict.mem_keys_insert.mpr (Or.inr target)⟩

/-- A link that stays does not touch the node that goes, so both of its ends stay too. -/
theorem eraseNode_wellFormed {g : Snapshot} (wf : g.WellFormed) (id : String) :
    (g.eraseNode id).WellFormed := by
  unfold eraseNode
  split
  · refine ⟨Dict.sorted_erase wf.sorted id, ?_, ?_⟩
    · intro key n member
      exact wf.own_key key n (List.mem_filter.mp member).1
    · intro l member
      obtain ⟨old, untouched⟩ := List.mem_filter.mp member
      have apart : l.source.id ≠ id ∧ l.target.id ≠ id := by
        simpa [Link.touches] using untouched
      obtain ⟨source, target⟩ := wf.joined l old
      exact ⟨Dict.mem_keys_erase.mpr ⟨apart.1, source⟩, Dict.mem_keys_erase.mpr ⟨apart.2, target⟩⟩
  · exact wf

theorem addLink_wellFormed {g : Snapshot} (wf : g.WellFormed) {l : Link}
    (joins : g.joins l = true) : (g.addLink l).WellFormed := by
  refine ⟨wf.sorted, wf.own_key, ?_⟩
  intro m member
  rcases List.mem_append.mp member with old | new
  · exact wf.joined m old
  · rw [List.mem_singleton.mp new]
    exact joins_iff.mp joins

theorem eraseLinks_wellFormed {g : Snapshot} (wf : g.WellFormed) (key : LinkKey) :
    (g.eraseLinks key).WellFormed := by
  refine ⟨wf.sorted, wf.own_key, ?_⟩
  intro l member
  exact wf.joined l (List.mem_filter.mp member).1

theorem insertNodes_wellFormed {g : Snapshot} (wf : g.WellFormed) (nodes : List Node) :
    (nodes.foldl (fun g n => g.insertNode n) g).WellFormed := by
  induction nodes generalizing g with
  | nil => exact wf
  | cons n rest ih => exact ih (insertNode_wellFormed wf n)

theorem ofPayload_wellFormed (p : Payload) : (ofPayload p).WellFormed := by
  have nodes := insertNodes_wellFormed empty_wellFormed p.nodes
  refine ⟨nodes.sorted, nodes.own_key, ?_⟩
  intro l member
  exact joins_iff.mp (List.mem_filter.mp member).2

theorem insertNodes_ascending (front : Dict Node) {rest : Dict Node}
    (sorted : Dict.Sorted (front ++ rest)) (own : ∀ key n, (key, n) ∈ rest → n.id = key) :
    rest.values.foldl (fun g n => insertNode n g) (Snapshot.mk front []) =
      ⟨front ++ rest, []⟩ := by
  induction rest generalizing front with
  | nil => simp [Dict.values]
  | cons e rest ih =>
    obtain ⟨key, n⟩ := e
    have named : n.id = key := own key n List.mem_cons_self
    have above : ∀ k ∈ front.keys, k < key := by
      intro k member
      rw [Dict.Sorted, Dict.keys, List.map_append] at sorted
      exact (List.pairwise_append.mp sorted).2.2 k member key List.mem_cons_self
    have fresh : ¬(Snapshot.mk front []).contains key = true := by
      intro known
      exact lt_irrefl key (above key (Dict.contains_iff.mp known))
    have placed : (Snapshot.mk front []).insertNode n = ⟨front ++ [(key, n)], []⟩ := by
      rw [insertNode, named, if_neg fresh, Dict.insert_of_above above]
    have others := ih (front ++ [(key, n)]) (by simpa using sorted)
      fun k m member => own k m (List.mem_cons_of_mem _ member)
    simpa [Dict.values, placed] using others

theorem ofPayload_toPayload {g : Snapshot} (wf : g.WellFormed) : ofPayload g.toPayload = g := by
  have nodes : g.nodes.values.foldl (fun g n => g.insertNode n) empty = ⟨g.nodes, []⟩ :=
    insertNodes_ascending [] wf.sorted wf.own_key
  have links : g.links.filter (Snapshot.mk g.nodes []).joins = g.links := by
    apply List.filter_eq_self.mpr
    intro l member
    exact joins_iff.mpr (wf.joined l member)
  simp only [ofPayload, toPayload, nodes, links]

theorem WellFormed.ids {g : Snapshot} (wf : g.WellFormed) :
    g.nodes.values.map (·.id) = g.nodes.keys := by
  simp only [Dict.values, Dict.keys, List.map_map]
  apply List.map_congr_left
  intro e member
  exact wf.own_key e.1 e.2 member

end Snapshot

namespace Store

/-- What can be done to a store from outside. -/
inductive Operation where
  | replace (p : Payload)
  | clear
  | setLoading (loading : Bool)
  | setError (error : Option String)
  | apply (d : Delta)

def perform (s : Store) : Operation → Store
  | .replace p => s.replace (.ofPayload p)
  | .clear => s.clear
  | .setLoading loading => s.setLoading loading
  | .setError error => s.setError error
  | .apply d => (s.apply d).1

def run (s : Store) (ops : List Operation) : Store := ops.foldl perform s

/-- A delta either leaves the store as it is, or replaces its graph by the changed one. A link is
added only if it joins two nodes. -/
theorem apply_cases (s : Store) (d : Delta) :
    (s.apply d).1 = s ∨
      (∃ n, (s.apply d).1 = s.replace (s.snapshot.insertNode n)) ∨
      (∃ id, (s.apply d).1 = s.replace (s.snapshot.eraseNode id)) ∨
      (∃ l, s.snapshot.joins l = true ∧ (s.apply d).1 = s.replace (s.snapshot.addLink l)) ∨
      (∃ key, (s.apply d).1 = s.replace (s.snapshot.eraseLinks key)) := by
  unfold apply
  split
  · exact Or.inl rfl
  · rename_i accepted
    split
    · rename_i g change
      refine Or.inr ?_
      cases d with
      | nodeAdded n =>
        simp only [change?, Option.ite_none_left_eq_some, Option.some.injEq] at change
        exact Or.inl ⟨n, by rw [change.2]⟩
      | nodeRemoved id =>
        simp only [change?, Option.ite_none_right_eq_some, Option.some.injEq] at change
        exact Or.inr (Or.inl ⟨id, by rw [change.2]⟩)
      | linkAdded l =>
        -- a link without both ends was refused before
        have joins : s.snapshot.joins l = true := by
          by_contra dangling
          simp [objection?, dangling] at accepted
        simp only [change?, Option.some.injEq] at change
        exact Or.inr (Or.inr (Or.inl ⟨l, joins, by rw [change]⟩))
      | linkRemoved l =>
        simp only [change?, Option.ite_none_right_eq_some, Option.some.injEq] at change
        exact Or.inr (Or.inr (Or.inr ⟨l.key, by rw [change.2]⟩))
    · exact Or.inl rfl

theorem apply_wellFormed {s : Store} (wf : s.snapshot.WellFormed) (d : Delta) :
    (s.apply d).1.snapshot.WellFormed := by
  rcases apply_cases s d with same | ⟨n, eq⟩ | ⟨id, eq⟩ | ⟨l, joins, eq⟩ | ⟨key, eq⟩
  · rw [same]
    exact wf
  · rw [eq]
    exact Snapshot.insertNode_wellFormed wf n
  · rw [eq]
    exact Snapshot.eraseNode_wellFormed wf id
  · rw [eq]
    exact Snapshot.addLink_wellFormed wf joins
  · rw [eq]
    exact Snapshot.eraseLinks_wellFormed wf key

theorem perform_wellFormed {s : Store} (wf : s.snapshot.WellFormed) (op : Operation) :
    (s.perform op).snapshot.WellFormed := by
  cases op with
  | replace p => exact Snapshot.ofPayload_wellFormed p
  | clear => exact Snapshot.empty_wellFormed
  | setLoading loading => exact wf
  | setError error => exact wf
  | apply d => exact apply_wellFormed wf d

theorem run_wellFormed {s : Store} (wf : s.snapshot.WellFormed) (ops : List Operation) :
    (s.run ops).snapshot.WellFormed := by
  induction ops generalizing s with
  | nil => exact wf
  | cons op rest ih => exact ih (perform_wellFormed wf op)

/-- Whatever was done to a store that began empty: the ends of every link are keys of its nodes,
what a key finds is the one node that stands there, and that node has the key for its identity. -/
theorem run_joins_links_and_keys_nodes (ops : List Operation) :
    let g := (run {} ops).snapshot
    (∀ l ∈ g.links, l.source.id ∈ g.nodes.keys ∧ l.target.id ∈ g.nodes.keys) ∧
      (∀ key n, g.node? key = some n ↔ (key, n) ∈ g.nodes) ∧
      ∀ key n, (key, n) ∈ g.nodes → n.id = key := by
  have wf : (run {} ops).snapshot.WellFormed := run_wellFormed Snapshot.empty_wellFormed ops
  refine ⟨wf.joined, ?_, wf.own_key⟩
  intro key n
  exact Dict.find_iff_mem wf.sorted

example :
    let node (id : String) : Node := { id, kind := .file }
    let ends (a b : String) : Link := ⟨.bare a, .embedded b [], .calls⟩
    let g := (run {} [
      .replace ⟨[node "b", node "a", node "b"], [ends "a" "a", ends "a" "b", ends "b" "c"]⟩,
      .apply (.linkAdded (ends "a" "b")), .apply (.nodeRemoved "b"),
      .apply (.linkAdded (ends "b" "a"))]).snapshot
    g.nodes.keys = ["a"] ∧ g.links.map Link.key = [⟨"a", "a", .calls⟩] := by
  decide

end Store

end CodeAtlas
