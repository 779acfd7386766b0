import CodeAtlas.Proofs.DeltaRuns

/-!
A graph told from the history of its deltas. A link is there if it was there at the start or was
accepted, and no later delta ended it; a node that was removed and comes again does not bring its
links back. The node under an identity is the first that came since the last removal.
-/
namespace CodeAtlas

namespace Delta

/-- A link goes with a removal of its key, and with the removal of a node at one of its ends. -/
def ends (l : Link) : Delta → Bool
  | .linkRemoved m => m.key = l.key
  | .nodeRemoved id => l.touches id
  | .nodeAdded _ | .linkAdded _ => false

/-- The node that a delta adds under an identity. A node without an identity is never added. -/
def brings (id : String) : Delta → Option Node
  | .nodeAdded n => if n.id = id ∧ id ≠ "" then some n else none
  | .nodeRemoved _ | .linkAdded _ | .linkRemoved _ => none

end Delta

namespace Store

/-! ### Nodes -/

theorem apply_node {s : Store} {d : Delta} {id : String} (stays : d ≠ .nodeRemoved id) :
    (s.apply d).1.snapshot.node? id = (s.snapshot.node? id).or (d.brings id) := by
  cases d with
  | nodeAdded n =>
    rw [apply_nodeAdded]
    by_cases nameless : n.id = ""
    · have never : (Delta.nodeAdded n).brings id = none := by
        simp [Delta.brings, nameless, eq_comm]
      simp [nameless, never]
    · rw [if_neg nameless]
      unfold Snapshot.insertNode
      split
      · rename_i known
        by_cases same : n.id = id
        · obtain ⟨m, found⟩ := Option.isSome_iff_exists.mp (same ▸ known)
          rw [Snapshot.node?, found, Option.some_or]
        · simp [Delta.brings, same]
      · rename_i absent
        simp only [Snapshot.node?, Dict.find_insert]
        by_cases same : n.id = id
        · subst same
          have none : s.snapshot.nodes.find? n.id = none := by
            simpa [Snapshot.contains, Dict.contains] using absent
          simp [Delta.brings, none, nameless]
        · simp [Delta.brings, same, Ne.symm same]
  | nodeRemoved other =>
    have apart : id ≠ other := fun same => stays (by rw [same])
    rw [apply_nodeRemoved]
    unfold Snapshot.eraseNode
    split
    · simp [Snapshot.node?, Dict.find_erase, apart, Delta.brings]
    · simp [Delta.brings]
  | linkAdded l =>
    rw [apply_linkAdded]
    split <;> simp [Snapshot.node?, Snapshot.addLink, Delta.brings]
  | linkRemoved l =>
    rw [apply_linkRemoved]
    simp [Snapshot.node?, Snapshot.eraseLinks, Delta.brings]

theorem apply_contains {s : Store} {d : Delta} {id : String} (stays : d ≠ .nodeRemoved id)
    (known : s.snapshot.contains id = true) : (s.apply d).1.snapshot.contains id = true := by
  have after := congrArg Option.isSome (apply_node (s := s) stays)
  rw [Option.isSome_or] at after
  exact after.trans (Bool.or_eq_true_iff.mpr (Or.inl known))

theorem removed_node (s : Store) (id : String) :
    (s.apply (.nodeRemoved id)).1.snapshot.node? id = none := by
  rw [apply_nodeRemoved]
  unfold Snapshot.eraseNode
  split
  · simp [Snapshot.node?, Dict.find_erase]
  · rename_i absent
    simpa [Snapshot.node?, Snapshot.contains, Dict.contains] using absent

theorem applyAll_node {s : Store} {ds : List Delta} {id : String} (stays : .nodeRemoved id ∉ ds) :
    (s.applyAll ds).snapshot.node? id = (s.snapshot.node? id).or (ds.findSome? (·.brings id)) := by
  induction ds generalizing s with
  | nil => simp [applyAll]
  | cons d rest ih =>
    obtain ⟨other, later⟩ := not_or.mp (mt List.mem_cons.mpr stays)
    rw [applyAll_cons, ih later, apply_node (Ne.symm other), Option.or_assoc]
    cases brought : d.brings id <;> simp [brought]

/-! ### Links -/

def takes (s : Store) (d : Delta) : List Link :=
  match d with
  | .linkAdded l => if (s.apply d).2 = .applied then [l] else []
  | _ => []

/-- The links that are accepted one after the other, each with the deltas that come after it. -/
def accepted (s : Store) : List Delta → List (Link × List Delta)
  | [] => []
  | d :: later => (s.takes d).map (·, later) ++ accepted (s.apply d).1 later

theorem mem_takes {s : Store} {d : Delta} {l : Link} :
    l ∈ s.takes d ↔ d = .linkAdded l ∧ s.snapshot.joins l = true := by
  cases d with
  | linkAdded m =>
    simp only [takes, linkAdded_applied, Delta.linkAdded.injEq]
    split
    · rename_i joins
      simp only [List.mem_singleton]
      constructor
      · rintro rfl
        exact ⟨rfl, joins⟩
      · rintro ⟨rfl, _⟩
        rfl
    · rename_i refused
      simp only [List.not_mem_nil, false_iff, not_and]
      rintro rfl
      exact refused
  | nodeAdded | nodeRemoved | linkRemoved => simp [takes]

theorem untouched_of_absent {g : Snapshot} (closed : g.Closed) {id : String}
    (absent : ¬g.contains id = true) : ∀ l ∈ g.links, l.touches id = false := by
  intro l member
  have joins := closed l member
  simp only [Snapshot.joins, Bool.and_eq_true] at joins
  have source : l.source.id ≠ id := by
    rintro rfl
    exact absent joins.1
  have target : l.target.id ≠ id := by
    rintro rfl
    exact absent joins.2
  simp [Link.touches, source, target]

/-- After a delta: the links that it does not end, and the one that it adds. That the removal of a
node which is not there ends no link is where the graph has to be closed. -/
theorem apply_links {s : Store} (closed : s.snapshot.Closed) (d : Delta) :
    (s.apply d).1.snapshot.links =
      (s.snapshot.links.filter fun l => !d.ends l) ++ s.takes d := by
  cases d with
  | nodeAdded n =>
    rw [apply_nodeAdded]
    split
    · simp [Delta.ends, takes]
    · simp [Delta.ends, takes, Snapshot.insertNode_links]
  | nodeRemoved id =>
    rw [apply_nodeRemoved]
    unfold Snapshot.eraseNode
    split
    · simp [Delta.ends, takes]
    · rename_i absent
      have untouched := untouched_of_absent closed absent
      have kept : (s.snapshot.links.filter fun l => !(Delta.nodeRemoved id).ends l) =
          s.snapshot.links := by
        apply List.filter_eq_self.mpr
        intro l member
        simp [Delta.ends, untouched l member]
      simp [kept, takes]
  | linkAdded l =>
    rw [apply_linkAdded]
    by_cases joins : s.snapshot.joins l = true
    · simp [Delta.ends, takes, linkAdded_applied.mpr joins, joins, Snapshot.addLink]
    · have refused : ¬(s.apply (.linkAdded l)).2 = .applied := fun applied =>
        joins (linkAdded_applied.mp applied)
      simp [Delta.ends, takes, refused, joins]
  | linkRemoved l =>
    rw [apply_linkRemoved]
    simp [Delta.ends, takes, Snapshot.eraseLinks, eq_comm]

theorem apply_closed {s : Store} (closed : s.snapshot.Closed) (d : Delta) :
    (s.apply d).1.snapshot.Closed := by
  intro l member
  rw [apply_links closed] at member
  have before : s.snapshot.joins l = true ∧ ¬d.ends l = true := by
    rcases List.mem_append.mp member with old | new
    · obtain ⟨there, unended⟩ := List.mem_filter.mp old
      exact ⟨closed l there, by simpa using unended⟩
    · obtain ⟨rfl, joins⟩ := mem_takes.mp new
      exact ⟨joins, by simp [Delta.ends]⟩
  obtain ⟨joins, unended⟩ := before
  have sourceStays : d ≠ .nodeRemoved l.source.id := by
    rintro rfl
    exact unended (by simp [Delta.ends, Link.touches])
  have targetStays : d ≠ .nodeRemoved l.target.id := by
    rintro rfl
    exact unended (by simp [Delta.ends, Link.touches])
  simp only [Snapshot.joins, Bool.and_eq_true] at joins ⊢
  exact ⟨apply_contains sourceStays joins.1, apply_contains targetStays joins.2⟩

def survives (c : Link × List Delta) : Bool := c.2.all fun d => !d.ends c.1

theorem filter_survives (links : List Link) (d : Delta) (later : List Delta) :
    (((links.map (·, d :: later)).filter survives).map (·.1)) =
      (((links.filter fun l => !d.ends l).map (·, later)).filter survives).map (·.1) := by
  induction links with
  | nil => rfl
  | cons l rest ih =>
    by_cases ended : d.ends l = true
    · simpa [survives, ended] using ih
    · by_cases lasts : survives (l, later) = true
      · have all : survives (l, d :: later) = true := by
          simpa [survives, ended] using lasts
        simpa [ended, lasts, all] using ih
      · have fails : ¬survives (l, d :: later) = true := by
          simpa [survives, ended] using lasts
        simpa [ended, lasts, fails] using ih

theorem applyAll_survivors {s : Store} (closed : s.snapshot.Closed) (ds : List Delta) :
    (s.applyAll ds).snapshot.links =
      ((s.snapshot.links.map (·, ds) ++ s.accepted ds).filter survives).map (·.1) := by
  induction ds generalizing s with
  | nil =>
    have all : (s.snapshot.links.map (·, ([] : List Delta))).filter survives =
        s.snapshot.links.map (·, []) := by
      apply List.filter_eq_self.mpr
      intro c member
      obtain ⟨l, _, eq⟩ := List.mem_map.mp member
      subst eq
      rfl
    simp [accepted, all, applyAll, Function.comp_def]
  | cons d later ih =>
    -- what the first delta leaves and takes is what the others start with
    rw [applyAll_cons, ih (apply_closed closed d), apply_links closed]
    simp only [accepted, List.map_append, List.filter_append, List.append_assoc]
    rw [filter_survives]

theorem mem_accepted {s : Store} {ds : List Delta} {l : Link} {later : List Delta} :
    (l, later) ∈ s.accepted ds ↔ ∃ before, ds = before ++ .linkAdded l :: later ∧
      (s.applyAll before).snapshot.joins l = true := by
  induction ds generalizing s with
  | nil => simp [accepted]
  | cons d rest ih =>
    have first : (l, later) ∈ (s.takes d).map (·, rest) ↔
        (d = .linkAdded l ∧ s.snapshot.joins l = true) ∧ later = rest := by
      simp only [List.mem_map, Prod.mk.injEq, ← mem_takes]
      constructor
      · rintro ⟨m, taken, rfl, rfl⟩
        exact ⟨taken, rfl⟩
      · rintro ⟨taken, rfl⟩
        exact ⟨l, taken, rfl, rfl⟩
    rw [accepted, List.mem_append, first, ih]
    constructor
    · rintro (⟨⟨rfl, joins⟩, rfl⟩ | ⟨before, rfl, joins⟩)
      · exact ⟨[], rfl, joins⟩
      · exact ⟨d :: before, rfl, joins⟩
    · rintro ⟨before, split, joins⟩
      cases before with
      | nil =>
        obtain ⟨rfl, rfl⟩ := List.cons.inj split
        exact Or.inl ⟨⟨rfl, joins⟩, rfl⟩
      | cons e before =>
        obtain ⟨rfl, rfl⟩ := List.cons.inj split
        exact Or.inr ⟨before, rfl, joins⟩

/-- The graph after any deltas on a closed one. A link is accepted exactly if both of its ends were
nodes when it came. The links are, in order, those of the start and those accepted, without the ones
that a later delta ended. Under an identity stands the node of the start or else the first one that
came, if it was never removed, and the first one that came after the last removal otherwise. -/
theorem deltas_leave_unended_links_and_first_nodes (s : Store) (closed : s.snapshot.Closed)
    (ds : List Delta) :
    let g := (s.applyAll ds).snapshot
    (∀ l later, (l, later) ∈ s.accepted ds ↔ ∃ before, ds = before ++ .linkAdded l :: later ∧
        (s.applyAll before).snapshot.contains l.source.id = true ∧
        (s.applyAll before).snapshot.contains l.target.id = true) ∧
      g.links = ((s.snapshot.links.map (·, ds) ++ s.accepted ds).filter fun c =>
        c.2.all fun d => !d.ends c.1).map (·.1) ∧
      ∀ id,
        (.nodeRemoved id ∉ ds →
          g.node? id = (s.snapshot.node? id).or (ds.findSome? (·.brings id))) ∧
        ∀ before after, ds = before ++ .nodeRemoved id :: after → .nodeRemoved id ∉ after →
          g.node? id = after.findSome? (·.brings id) := by
  intro g
  refine ⟨?_, applyAll_survivors closed ds, ?_⟩
  · intro l later
    rw [mem_accepted]
    simp only [Snapshot.joins, Bool.and_eq_true]
  · intro id
    refine ⟨applyAll_node, ?_⟩
    intro before after split last
    have parted : g = (((s.applyAll before).apply (.nodeRemoved id)).1.applyAll after).snapshot := by
      rw [← applyAll_cons, ← applyAll_append, ← split]
    rw [parted, applyAll_node last, removed_node, Option.none_or]

/-- A node is removed and comes again as another one, once with the links it gets then and without
those it had. A second node of its identity and a link to a node that is not there are refused. -/
theorem returning_node_starts_without_links :
    let node (id : String) (kind : NodeKind) : Node := { id, kind }
    let link (a b : String) (kind : LinkKind) : Link := ⟨.bare a, .embedded b [], kind⟩
    let s : Store := { snapshot := ⟨[("a", node "a" .file), ("b", node "b" .file)],
      [link "a" "b" .calls, link "a" "a" .calls]⟩ }
    let after : List Delta := [.nodeAdded (node "b" .method), .linkAdded (link "b" "a" .contains),
      .linkAdded (link "a" "c" .calls), .nodeAdded (node "b" .function)]
    let ds : List Delta := .linkAdded (link "b" "b" .calls) :: .nodeRemoved "b" :: after
    s.snapshot.Closed ∧
      (s.applyAll ds).snapshot.links.map Link.key = [⟨"a", "a", .calls⟩, ⟨"b", "a", .contains⟩] ∧
      (s.applyAll ds).snapshot.node? "b" = some (node "b" .method) := by
  intro node link s after ds
  have closed : s.snapshot.Closed := by
    intro l member
    simp only [s, List.mem_cons, List.not_mem_nil, or_false] at member
    rcases member with rfl | rfl <;> decide
  obtain ⟨_, links, nodes⟩ := deltas_leave_unended_links_and_first_nodes s closed ds
  refine ⟨closed, ?_, ?_⟩
  · rw [links]
    decide
  · exact (nodes "b").2 [.linkAdded (link "b" "b" .calls)] after rfl (by simp [after])

end Store

end CodeAtlas
