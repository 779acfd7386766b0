import CodeAtlas.Proofs.DeltaHistory
import CodeAtlas.Proofs.RevisionKeys

/-!
Deltas that have nothing to do with each other. What becomes of a delta depends on a few nodes and
on the links of one key; a delta that leaves these alone can come before it or after it. Only two
links that are both added show the order in which they came, at the end of the list.
-/
namespace CodeAtlas

namespace Delta

def node? : Delta → Option String
  | .nodeAdded n => some n.id
  | .nodeRemoved id => some id
  | .linkAdded _ | .linkRemoved _ => none

def mentions : Delta → List String
  | .nodeAdded n => [n.id]
  | .nodeRemoved id => [id]
  | .linkAdded l | .linkRemoved l => [l.source.id, l.target.id]

def key? : Delta → Option LinkKey
  | .linkAdded l | .linkRemoved l => some l.key
  | .nodeAdded _ | .nodeRemoved _ => none

def removed? : Delta → Option LinkKey
  | .linkRemoved l => some l.key
  | .nodeAdded _ | .nodeRemoved _ | .linkAdded _ => none

/-- Leaves alone the nodes that the other delta mentions, and does not remove links of its key. -/
def Spares (d e : Delta) : Prop :=
  (∀ id ∈ d.node?, id ∉ e.mentions) ∧ ∀ key ∈ d.removed?, key ∉ e.key?

/-- Neither is about a node that the other mentions, and if both are about links of one key then
neither removes them. -/
def Unrelated (d e : Delta) : Prop := d.Spares e ∧ e.Spares d

instance (d e : Delta) : Decidable (d.Unrelated e) :=
  inferInstanceAs (Decidable (((∀ id ∈ d.node?, id ∉ e.mentions) ∧ _) ∧ _ ∧ _))

def adds : Delta → List Link
  | .linkAdded l => [l]
  | .nodeAdded _ | .nodeRemoved _ | .linkRemoved _ => []

theorem Unrelated.symm {d e : Delta} (unrelated : d.Unrelated e) : e.Unrelated d :=
  ⟨unrelated.2, unrelated.1⟩

theorem mem_mentions {d : Delta} {id : String} (about : id ∈ d.node?) : id ∈ d.mentions := by
  cases d with
  | nodeAdded | nodeRemoved =>
    cases about
    exact List.mem_cons_self
  | linkAdded | linkRemoved => cases about

theorem key_of_adds {d : Delta} {l : Link} (member : l ∈ d.adds) : l.key ∈ d.key? := by
  cases d with
  | linkAdded m =>
    rw [List.mem_singleton.mp member]
    rfl
  | nodeAdded | nodeRemoved | linkRemoved => cases member

theorem adds_cases (d : Delta) : d.adds = [] ∨ ∃ l, d = .linkAdded l := by
  cases d with
  | linkAdded l => exact Or.inr ⟨l, rfl⟩
  | nodeAdded | nodeRemoved | linkRemoved => exact Or.inl rfl

theorem mentions_of_key {d : Delta} {key : LinkKey} (mem : key ∈ d.key?) :
    d.mentions = [key.source, key.target] := by
  cases d with
  | nodeAdded | nodeRemoved => cases mem
  | linkAdded l | linkRemoved l =>
    cases mem
    rfl

theorem Spares.ends_eq {d e : Delta} (spares : d.Spares e) {l : Link} (key : l.key ∈ e.key?) :
    d.ends l = false := by
  cases d with
  | nodeAdded | linkAdded => rfl
  | nodeRemoved id =>
    have apart := spares.1 id rfl
    rw [mentions_of_key key] at apart
    simp only [Link.key, List.mem_cons, List.not_mem_nil, or_false, not_or] at apart
    simp [ends, Link.touches, Ne.symm apart.1, Ne.symm apart.2]
  | linkRemoved m =>
    have other : m.key ≠ l.key := by
      intro same
      exact spares.2 m.key rfl (same ▸ key)
    simp [ends, other]

end Delta

namespace Store

/-! ### What a delta depends on -/

def hasLink (s : Store) (key : LinkKey) : Bool := s.snapshot.links.any fun m => m.key = key

/-- The outcome is told by the nodes that the delta mentions, and for a removal by the links of its
key. -/
theorem outcome_congr {s t : Store} {d : Delta}
    (nodes : ∀ id ∈ d.mentions, t.snapshot.contains id = s.snapshot.contains id)
    (links : ∀ key ∈ d.removed?, t.hasLink key = s.hasLink key) :
    (t.apply d).2 = (s.apply d).2 := by
  cases d with
  | nodeAdded n =>
    have same := nodes n.id List.mem_cons_self
    by_cases nameless : n.id = "" <;> by_cases known : s.snapshot.contains n.id = true <;>
      simp [apply, objection?, change?, nameless, same, known]
  | nodeRemoved id =>
    have same := nodes id List.mem_cons_self
    by_cases known : s.snapshot.contains id = true <;>
      simp [apply, objection?, change?, same, known]
  | linkAdded l =>
    have source := nodes l.source.id List.mem_cons_self
    have target := nodes l.target.id (List.mem_cons_of_mem _ List.mem_cons_self)
    have joins : t.snapshot.joins l = s.snapshot.joins l := by
      rw [Snapshot.joins, Snapshot.joins, source, target]
    by_cases joined : s.snapshot.joins l = true <;>
      simp [apply, objection?, change?, joins, joined]
  | linkRemoved l =>
    have same : t.hasLink l.key = s.hasLink l.key := links l.key rfl
    unfold hasLink at same
    by_cases found : (s.snapshot.links.any fun m => m.key = l.key) = true <;>
      simp [apply, objection?, change?, same, found]

theorem links_of_applied {s : Store} {d : Delta} (applied : (s.apply d).2 = .applied) :
    (s.apply d).1.snapshot.links = (s.snapshot.links.filter fun l => !d.ends l) ++ d.adds := by
  cases d with
  | nodeAdded n =>
    rw [apply_nodeAdded]
    split <;> simp [Delta.ends, Delta.adds, Snapshot.insertNode_links]
  | nodeRemoved id =>
    have known : s.snapshot.contains id = true := by
      by_contra absent
      simp [apply, objection?, change?, absent] at applied
    simp [apply_nodeRemoved, Snapshot.eraseNode, known, Delta.ends, Delta.adds]
  | linkAdded l =>
    rw [apply_linkAdded, if_pos (linkAdded_applied.mp applied)]
    simp [Snapshot.addLink, Delta.ends, Delta.adds]
  | linkRemoved l =>
    simp [apply_linkRemoved, Snapshot.eraseLinks, Delta.ends, Delta.adds, eq_comm]

/-! ### What a delta leaves as it is -/

theorem apply_node_of_other {s : Store} {d : Delta} {id : String} (other : id ∉ d.node?) :
    (s.apply d).1.snapshot.node? id = s.snapshot.node? id := by
  have stays : d ≠ .nodeRemoved id := by
    rintro rfl
    exact other rfl
  have brings : d.brings id = none := by
    cases d with
    | nodeAdded n =>
      have apart : n.id ≠ id := fun same => other (congrArg some same)
      simp [Delta.brings, apart]
    | nodeRemoved | linkAdded | linkRemoved => rfl
  rw [apply_node stays, brings, Option.or_none]

theorem apply_hasLink {s : Store} {d e : Delta} (unrelated : d.Unrelated e) {key : LinkKey}
    (removed : key ∈ e.removed?) : (s.apply d).1.hasLink key = s.hasLink key := by
  have about : key ∈ e.key? := by
    cases e with
    | linkRemoved l => exact removed
    | nodeAdded | nodeRemoved | linkAdded => cases removed
  rcases apply_outcome s d with ⟨applied, -⟩ | ⟨-, same⟩
  · unfold hasLink
    rw [links_of_applied applied, List.any_append, List.any_filter]
    have adds : (d.adds.any fun m => m.key = key) = false := by
      cases d with
      | linkAdded l =>
        have other : l.key ≠ key := fun same => unrelated.2.2 key removed (congrArg some same)
        simp [Delta.adds, other]
      | nodeAdded | nodeRemoved | linkRemoved => rfl
    rw [adds, Bool.or_false]
    apply List.any_congr rfl
    intro l
    by_cases same : l.key = key
    · simp [unrelated.1.ends_eq (same ▸ about)]
    · simp [same]
  · rw [same]

theorem outcome_after {d e : Delta} (unrelated : d.Unrelated e) (s : Store) :
    ((s.apply d).1.apply e).2 = (s.apply e).2 := by
  apply outcome_congr
  · intro id mentioned
    have other : id ∉ d.node? := fun same => unrelated.1.1 id same mentioned
    exact congrArg Option.isSome (apply_node_of_other other)
  · intro key removed
    exact apply_hasLink unrelated removed

/-! ### Two deltas in either order -/

theorem apply_node_congr {s t : Store} {id : String}
    (same : t.snapshot.node? id = s.snapshot.node? id) (d : Delta) :
    (t.apply d).1.snapshot.node? id = (s.apply d).1.snapshot.node? id := by
  by_cases removal : d = .nodeRemoved id
  · subst removal
    rw [removed_node, removed_node]
  · rw [apply_node removal, apply_node removal, same]

theorem node_commutes {d e : Delta} (unrelated : d.Unrelated e) (s : Store) (id : String) :
    ((s.apply d).1.apply e).1.snapshot.node? id = ((s.apply e).1.apply d).1.snapshot.node? id := by
  by_cases own : id ∈ d.node?
  · have other : id ∉ e.node? := fun both => unrelated.1.1 id own (Delta.mem_mentions both)
    rw [apply_node_of_other other, apply_node_congr (apply_node_of_other other)]
  · rw [apply_node_of_other own, apply_node_congr (apply_node_of_other own)]

theorem apply_sorted {s : Store} (sorted : s.snapshot.nodes.Sorted) (d : Delta) :
    (s.apply d).1.snapshot.nodes.Sorted := by
  cases d with
  | nodeAdded n =>
    rw [apply_nodeAdded]
    unfold Snapshot.insertNode
    split
    · exact sorted
    · split
      · exact sorted
      · exact Dict.sorted_insert sorted n.id n
  | nodeRemoved id =>
    rw [apply_nodeRemoved]
    unfold Snapshot.eraseNode
    split
    · exact Dict.sorted_erase sorted id
    · exact sorted
  | linkAdded l =>
    rw [apply_linkAdded]
    split <;> exact sorted
  | linkRemoved l =>
    rw [apply_linkRemoved]
    exact sorted

theorem apply_status (s : Store) (d : Delta) :
    (s.apply d).1.revision =
        (if (s.apply d).2 = .applied then s.revision + 1 else s.revision) ∧
      (s.apply d).1.loading = s.loading ∧ (s.apply d).1.error = s.error := by
  rcases apply_outcome s d with ⟨applied, g, -, eq⟩ | ⟨ignored, eq⟩
  · rw [eq, if_pos applied]
    exact ⟨rfl, rfl, rfl⟩
  · rw [eq, if_neg ignored]
    exact ⟨rfl, rfl, rfl⟩

theorem stays_of_ignored {s : Store} {d : Delta} (ignored : (s.apply d).2 ≠ .applied) :
    (s.apply d).1 = s := by
  rcases apply_outcome s d with ⟨applied, -⟩ | ⟨-, same⟩
  · exact absurd applied ignored
  · exact same

/-- The links after two deltas that are both applied: the second one ends nothing of what the first
one has added. -/
theorem links_of_both {d e : Delta} (unrelated : d.Unrelated e) {s : Store}
    (first : (s.apply d).2 = .applied) (second : ((s.apply d).1.apply e).2 = .applied) :
    ((s.apply d).1.apply e).1.snapshot.links =
      ((s.snapshot.links.filter fun l => !d.ends l).filter fun l => !e.ends l) ++
        (d.adds ++ e.adds) := by
  have kept : (d.adds.filter fun l => !e.ends l) = d.adds := by
    apply List.filter_eq_self.mpr
    intro l member
    simp [unrelated.2.ends_eq (Delta.key_of_adds member)]
  rw [links_of_applied second, links_of_applied first, List.filter_append, kept,
    List.append_assoc]

theorem links_commute {d e : Delta} (unrelated : d.Unrelated e) (s : Store) :
    ((s.apply d).1.apply e).1.snapshot.links = ((s.apply e).1.apply d).1.snapshot.links ∨
      ∃ l m, d = .linkAdded l ∧ e = .linkAdded m ∧
        ((s.apply d).1.apply e).1.snapshot.links = s.snapshot.links ++ [l, m] ∧
        ((s.apply e).1.apply d).1.snapshot.links = s.snapshot.links ++ [m, l] := by
  have late : ((s.apply d).1.apply e).2 = (s.apply e).2 := outcome_after unrelated s
  have early : ((s.apply e).1.apply d).2 = (s.apply d).2 := outcome_after unrelated.symm s
  by_cases first : (s.apply d).2 = .applied
  · by_cases second : (s.apply e).2 = .applied
    · have one := links_of_both unrelated first (late.trans second)
      have other := links_of_both unrelated.symm second (early.trans first)
      rw [List.filter_comm] at other
      rcases d.adds_cases with none | ⟨l, rfl⟩
      · left
        rw [one, other, none, List.append_nil, List.nil_append]
      · rcases e.adds_cases with none | ⟨m, rfl⟩
        · left
          rw [one, other, none, List.append_nil, List.nil_append]
        · exact Or.inr ⟨l, m, rfl, rfl, by simpa [Delta.ends, Delta.adds] using one,
            by simpa [Delta.ends, Delta.adds] using other⟩
    · have unchanged : ((s.apply d).1.apply e).1 = (s.apply d).1 := stays_of_ignored (late ▸ second)
      rw [unchanged, stays_of_ignored second]
      exact Or.inl rfl
  · have unchanged : ((s.apply e).1.apply d).1 = (s.apply e).1 := stays_of_ignored (early ▸ first)
    rw [unchanged, stays_of_ignored first]
    exact Or.inl rfl

theorem revision_commutes {d e : Delta} (unrelated : d.Unrelated e) (s : Store) :
    ((s.apply d).1.apply e).1.revision = ((s.apply e).1.apply d).1.revision := by
  rw [(apply_status (s.apply d).1 e).1, (apply_status (s.apply e).1 d).1,
    outcome_after unrelated, outcome_after unrelated.symm, (apply_status s d).1,
    (apply_status s e).1]
  by_cases first : (s.apply d).2 = .applied <;> by_cases second : (s.apply e).2 = .applied <;>
    simp [first, second]

/-- Two deltas that have nothing to do with each other, on any store. Each of them has the same
outcome whether it comes first or second. In the end every identity has the same node, so that
dictionaries in order are equal, and revision, loading and error are the same. The links are the
same list too, unless both deltas have added one: then these two stand at its end in exchanged order. -/
theorem unrelated_deltas_commute (s : Store) (d e : Delta) (unrelated : d.Unrelated e) :
    let one := (s.apply d).1.apply e
    let other := (s.apply e).1.apply d
    other.2 = (s.apply d).2 ∧ one.2 = (s.apply e).2 ∧
      (∀ id, one.1.snapshot.node? id = other.1.snapshot.node? id) ∧
      (s.snapshot.nodes.Sorted → one.1.snapshot.nodes = other.1.snapshot.nodes) ∧
      one.1.revision = other.1.revision ∧ one.1.loading = other.1.loading ∧
      one.1.error = other.1.error ∧
      (one.1.snapshot.links = other.1.snapshot.links ∨
        ∃ l m, d = .linkAdded l ∧ e = .linkAdded m ∧
          one.1.snapshot.links = s.snapshot.links ++ [l, m] ∧
          other.1.snapshot.links = s.snapshot.links ++ [m, l]) := by
  intro one other
  have nodes := node_commutes unrelated s
  have oneStatus := (apply_status (s.apply d).1 e).2
  have otherStatus := (apply_status (s.apply e).1 d).2
  refine ⟨outcome_after unrelated.symm s, outcome_after unrelated s, nodes, ?_,
    revision_commutes unrelated s, ?_, ?_, links_commute unrelated s⟩
  · intro sorted
    exact Dict.eq_of_find (apply_sorted (apply_sorted sorted d) e)
      (apply_sorted (apply_sorted sorted e) d) nodes
  · rw [oneStatus.1, otherStatus.1, (apply_status s d).2.1, (apply_status s e).2.1]
  · rw [oneStatus.2, otherStatus.2, (apply_status s d).2.2, (apply_status s e).2.2]

/-- A node goes with its links while a link comes between two others, and two links come that share
an end. -/
theorem removal_and_new_links_in_either_order :
    let node (id : String) : String × Node := (id, { id, kind := .file })
    let link (a b : String) : Link := ⟨.bare a, .embedded b [], .calls⟩
    let s : Store :=
      { snapshot := ⟨[node "a", node "b", node "c"], [link "a" "b", link "b" "c", link "c" "a"]⟩ }
    let removal : Delta := .nodeRemoved "a"
    let back : Delta := .linkAdded (link "c" "b")
    let loop : Delta := .linkAdded (link "b" "b")
    removal.Unrelated back ∧ back.Unrelated loop ∧
      ((s.apply back).1.apply removal).2 = .applied ∧
      ((s.apply removal).1.apply back).1.snapshot.nodes =
        ((s.apply back).1.apply removal).1.snapshot.nodes ∧
      ((s.apply removal).1.apply back).1.snapshot.links =
        ((s.apply back).1.apply removal).1.snapshot.links ∧
      ((s.apply back).1.apply loop).1.snapshot.links ≠
        ((s.apply loop).1.apply back).1.snapshot.links := by
  intro node link s removal back loop
  have apart : removal.Unrelated back := by decide
  have sorted : s.snapshot.nodes.Sorted := by
    change ["a", "b", "c"].Pairwise (· < ·)
    decide
  obtain ⟨outcome, -, -, nodes, -, -, -, links⟩ := unrelated_deltas_commute s removal back apart
  refine ⟨apart, by decide, outcome.trans (by decide), nodes sorted, ?_, ?_⟩
  · rcases links with same | ⟨l, m, other, -⟩
    · exact same
    · simp [removal] at other
  · intro same
    have keys := congrArg (List.map Link.key) same
    revert keys
    decide

end Store

end CodeAtlas
