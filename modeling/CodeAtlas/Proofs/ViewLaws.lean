import CodeAtlas.Graph.View
import CodeAtlas.Proofs.StoreRuns

/-!
Laws of views. A view has the nodes that pass, in the order of their identities, and the links that
join two of them and pass themselves. It is a graph of its own, and narrower criteria choose the same
from it as from the whole graph: so a second look through the same criteria changes nothing, and
what narrower criteria show is a part of the view.
-/
namespace CodeAtlas

namespace Criteria

def showsKind (c : Criteria) (kind : NodeKind) : Bool :=
  c.allowed.contains kind && (c.showErrors || kind ≠ .lintError)

theorem nodePasses_iff {c : Criteria} {n : Node} :
    c.nodePasses n = true ↔ c.showsKind n.kind = true ∧ c.termPasses n = true := by
  simp [nodePasses, showsKind]

/-- The same search among fewer kinds, or with errors or calls hidden. -/
structure Within (c d : Criteria) : Prop where
  kinds : c.allowed ⊆ d.allowed
  term : c.term = d.term
  errors : c.showErrors = true → d.showErrors = true
  calls : c.showCalls = true → d.showCalls = true

theorem within_refl (c : Criteria) : c.Within c := ⟨List.Subset.refl _, rfl, id, id⟩

theorem Within.showsKind {c d : Criteria} (within : c.Within d) {kind : NodeKind}
    (shows : c.showsKind kind = true) : d.showsKind kind = true := by
  simp only [Criteria.showsKind, Bool.and_eq_true, Bool.or_eq_true, List.contains_iff_mem] at shows ⊢
  exact ⟨within.kinds shows.1, shows.2.imp_left within.errors⟩

theorem Within.nodePasses {c d : Criteria} (within : c.Within d) {n : Node}
    (passes : c.nodePasses n = true) : d.nodePasses n = true := by
  obtain ⟨shows, found⟩ := nodePasses_iff.mp passes
  have sought : d.termPasses n = c.termPasses n := by rw [termPasses, termPasses, within.term]
  exact nodePasses_iff.mpr ⟨within.showsKind shows, sought.trans found⟩

theorem Within.kindPasses {c d : Criteria} (within : c.Within d) {kind : LinkKind}
    (passes : c.kindPasses kind = true) : d.kindPasses kind = true := by
  simp only [Criteria.kindPasses, Bool.or_eq_true] at passes ⊢
  exact passes.imp_left within.calls

end Criteria

namespace View

/-- The structure of a view: its nodes by identity and kind, and its links by their keys. This is all
that a layout takes from it. -/
def shape (v : View) : List (String × NodeKind) × List LinkKey :=
  (v.nodes.map fun n => (n.id, n.kind), v.links.map Link.key)

variable {g : Snapshot} {c d : Criteria}

theorem mem_nodes {n : Node} :
    n ∈ (View.of g c).nodes ↔ n ∈ g.nodes.values ∧ c.nodePasses n = true := List.mem_filter

def takes (v : View) (c : Criteria) (l : Link) : Bool :=
  (v.nodes.map (·.id)).contains l.source.id && (v.nodes.map (·.id)).contains l.target.id &&
    c.kindPasses l.kind

theorem of_links (g : Snapshot) (c : Criteria) :
    (View.of g c).links = g.links.filter ((View.of g c).takes c) := rfl

theorem takes_iff {v : View} {l : Link} : v.takes c l = true ↔
    (l.source.id ∈ v.nodes.map (·.id) ∧ l.target.id ∈ v.nodes.map (·.id)) ∧
      c.kindPasses l.kind = true := by
  simp only [takes, Bool.and_eq_true, List.contains_iff_mem]

theorem takes_eq {v w : View} (same : v.nodes = w.nodes) : v.takes = w.takes := by
  unfold takes
  rw [same]

theorem ends_shown {l : Link} (member : l ∈ (View.of g c).links) :
    l.source.id ∈ (View.of g c).nodes.map (·.id) ∧
      l.target.id ∈ (View.of g c).nodes.map (·.id) := by
  rw [of_links] at member
  exact (takes_iff.mp (List.mem_filter.mp member).2).1

/-! ### What stands in a view -/

theorem ids_ascend (wf : g.WellFormed) (c : Criteria) :
    ((View.of g c).nodes.map (·.id)).Pairwise (· < ·) := by
  have kept : ((View.of g c).nodes.map (·.id)).Sublist (g.nodes.values.map (·.id)) :=
    List.filter_sublist.map _
  rw [wf.ids] at kept
  exact wf.sorted.sublist kept

theorem distinct_ids (wf : g.WellFormed) (c : Criteria) :
    ((View.of g c).nodes.map (·.id)).Nodup :=
  (ids_ascend wf c).imp ne_of_lt

theorem mem_nodes_iff (wf : g.WellFormed) {n : Node} :
    n ∈ (View.of g c).nodes ↔ g.node? n.id = some n ∧ c.nodePasses n = true := by
  rw [mem_nodes, Snapshot.node?, Dict.find_iff_mem wf.sorted]
  refine and_congr_left ?_
  intro _
  constructor
  · intro member
    obtain ⟨⟨key, m⟩, entry, rfl⟩ := List.mem_map.mp member
    rw [wf.own_key key m entry]
    exact entry
  · intro entry
    exact List.mem_map.mpr ⟨_, entry, rfl⟩

theorem shown_iff (wf : g.WellFormed) {id : String} :
    id ∈ (View.of g c).nodes.map (·.id) ↔ (g.node? id).any c.nodePasses = true := by
  rw [List.mem_map]
  constructor
  · rintro ⟨n, member, rfl⟩
    obtain ⟨found, passes⟩ := (mem_nodes_iff wf).mp member
    rw [found]
    exact passes
  · intro passes
    cases found : g.node? id with
    | none => simp [found] at passes
    | some n =>
      have named : n.id = id := wf.own_key id n (Dict.mem_of_find found)
      rw [found, Option.any_some] at passes
      exact ⟨n, (mem_nodes_iff wf).mpr ⟨named.symm ▸ found, passes⟩, named⟩

theorem links_eq (wf : g.WellFormed) (c : Criteria) :
    (View.of g c).links = g.links.filter fun l =>
      (g.node? l.source.id).any c.nodePasses && (g.node? l.target.id).any c.nodePasses &&
        c.kindPasses l.kind := by
  rw [of_links]
  apply List.filter_congr
  intro l _
  rw [Bool.eq_iff_iff, takes_iff, shown_iff wf, shown_iff wf, Bool.and_eq_true, Bool.and_eq_true]

/-! ### A view as a graph of its own -/

def payload (v : View) : Payload := ⟨v.nodes, v.links⟩

def graph (v : View) : Snapshot := ⟨v.nodes.map fun n => (n.id, n), v.links⟩

theorem graph_values (v : View) : v.graph.nodes.values = v.nodes := by
  simp [graph, Dict.values, Function.comp_def]

theorem graph_keys (v : View) : v.graph.nodes.keys = v.nodes.map (·.id) := by
  simp [graph, Dict.keys, Function.comp_def]

theorem graph_wellFormed (wf : g.WellFormed) (c : Criteria) :
    (View.of g c).graph.WellFormed := by
  refine ⟨?_, ?_, ?_⟩
  · rw [Dict.Sorted, graph_keys]
    exact ids_ascend wf c
  · intro key n member
    obtain ⟨m, _, same⟩ := List.mem_map.mp member
    cases same
    rfl
  · intro l member
    rw [graph_keys]
    exact ends_shown member

theorem toPayload_graph (v : View) : v.graph.toPayload = v.payload := by
  rw [Snapshot.toPayload, graph_values]
  rfl

theorem ofPayload_payload (wf : g.WellFormed) (c : Criteria) :
    Snapshot.ofPayload (View.of g c).payload = (View.of g c).graph := by
  rw [← toPayload_graph]
  exact Snapshot.ofPayload_toPayload (graph_wellFormed wf c)

/-! ### Narrower criteria -/

theorem nodes_of_within (within : d.Within c) (g : Snapshot) :
    (View.of g d).nodes = (View.of g c).nodes.filter d.nodePasses := by
  simp only [View.of, List.filter_filter]
  apply List.filter_congr
  intro n _
  rw [Bool.eq_iff_iff, Bool.and_eq_true]
  exact ⟨fun passes => ⟨passes, within.nodePasses passes⟩, And.left⟩

theorem links_of_within (within : d.Within c) (g : Snapshot) :
    (View.of g d).links = (View.of g c).links.filter ((View.of g d).takes d) := by
  have fewer : (View.of g d).nodes.map (·.id) ⊆ (View.of g c).nodes.map (·.id) := by
    rw [nodes_of_within within]
    exact List.map_subset _ (List.filter_subset_self _)
  rw [of_links, of_links, List.filter_filter]
  apply List.filter_congr
  intro l _
  rw [Bool.eq_iff_iff, Bool.and_eq_true]
  refine ⟨?_, And.left⟩
  intro taken
  obtain ⟨⟨source, target⟩, passes⟩ := takes_iff.mp taken
  exact ⟨taken, takes_iff.mpr ⟨⟨fewer source, fewer target⟩, within.kindPasses passes⟩⟩

/-- Narrower criteria choose the same from the view as from the whole graph. -/
theorem of_graph (within : d.Within c) (g : Snapshot) :
    View.of (View.of g c).graph d = View.of g d := by
  have nodes : (View.of (View.of g c).graph d).nodes = (View.of g d).nodes := by
    calc
      _ = (View.of g c).graph.nodes.values.filter d.nodePasses := rfl
      _ = (View.of g d).nodes := by rw [graph_values, nodes_of_within within]
  have links : (View.of (View.of g c).graph d).links = (View.of g d).links := by
    calc
      _ = (View.of g c).links.filter ((View.of (View.of g c).graph d).takes d) := rfl
      _ = (View.of g d).links := by rw [takes_eq nodes, links_of_within within]
  exact congrArg₂ View.mk nodes links

end View

namespace Store

/-- Whatever was done to a store that began empty, a view of its graph has exactly the nodes that
pass, in strictly ascending order of their identities, and of the links, in their order and as often
as they are there, those of a passing kind whose two ends name nodes that pass. No link leads out of
the view, so its document makes a graph of all its nodes and links, of which the same criteria show
the same view. Narrower criteria show a part of the view, the same whether they look at the whole
graph or at the view alone. -/
theorem views_stand_alone_and_narrow (ops : List Operation) (c : Criteria) :
    let g := (run {} ops).snapshot
    let v := View.of g c
    (v.nodes.map (·.id)).Pairwise (· < ·) ∧
      (∀ n, n ∈ v.nodes ↔ g.node? n.id = some n ∧ c.nodePasses n = true) ∧
      v.links = g.links.filter (fun l => (g.node? l.source.id).any c.nodePasses &&
        (g.node? l.target.id).any c.nodePasses && c.kindPasses l.kind) ∧
      (∀ l ∈ v.links, l.source.id ∈ v.nodes.map (·.id) ∧ l.target.id ∈ v.nodes.map (·.id)) ∧
      (Snapshot.ofPayload v.payload).toPayload = v.payload ∧
      Snapshot.droppedLinks v.payload = 0 ∧
      View.of (.ofPayload v.payload) c = v ∧
      ∀ d : Criteria, d.Within c →
        (View.of g d).nodes.Sublist v.nodes ∧ (View.of g d).links.Sublist v.links ∧
          View.of (.ofPayload v.payload) d = View.of g d := by
  intro g v
  have wf : g.WellFormed := run_wellFormed Snapshot.empty_wellFormed ops
  have back : Snapshot.ofPayload v.payload = v.graph := View.ofPayload_payload wf c
  refine ⟨View.ids_ascend wf c, fun n => View.mem_nodes_iff wf, View.links_eq wf c,
    fun l => View.ends_shown, ?_, ?_, ?_, ?_⟩
  · rw [back, View.toPayload_graph]
  · rw [Snapshot.droppedLinks, back]
    exact Nat.sub_self _
  · rw [back]
    exact View.of_graph (Criteria.within_refl c) g
  · intro d within
    refine ⟨?_, ?_, ?_⟩
    · rw [View.nodes_of_within within]
      exact List.filter_sublist
    · rw [View.links_of_within within]
      exact List.filter_sublist
    · rw [back]
      exact View.of_graph within g

/-- With classes and calls hidden three files stay, and of the links between them the one that is no
call. -/
theorem hidden_class_and_calls_leave_containment :
    let node (id : String) (kind : NodeKind) : Node := { id, kind }
    let link (source target : String) (kind : LinkKind) : Link :=
      ⟨.embedded source [], .bare target, kind⟩
    let ops := [Operation.replace ⟨[node "d" .file, node "b" .classDef, node "a" .file, node "c" .file],
      [link "a" "c" .calls, link "a" "b" .contains, link "a" "c" .contains, link "c" "e" .contains]⟩]
    let g := (run {} ops).snapshot
    let d : Criteria := { allowed := [.file], showCalls := false }
    d.Within {} ∧ (View.of g d).nodes.map (·.id) = ["a", "c", "d"] ∧
      (View.of g d).links.map Link.key = [⟨"a", "c", .contains⟩] ∧
      (View.of g d).nodes.Sublist (View.of g {}).nodes ∧
      (View.of g d).links.Sublist (View.of g {}).links := by
  intro node link ops g d
  have within : d.Within {} := ⟨by decide, rfl, by decide, by decide⟩
  obtain ⟨_, _, _, _, _, _, _, narrow⟩ := views_stand_alone_and_narrow ops {}
  obtain ⟨nodes, links, _⟩ := narrow d within
  exact ⟨within, by decide +kernel, by decide +kernel, nodes, links⟩

end Store

end CodeAtlas
