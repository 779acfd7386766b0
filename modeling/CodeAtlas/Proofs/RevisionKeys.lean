import CodeAtlas.Proofs.DeltaRuns
import CodeAtlas.Proofs.GraphRevisions

/-!
The revision as a key for what was made from the graph. A delta that is reported as applied has
changed the graph, and no other one has. So the revision that is kept beside a result tells by itself
whether the graph is still the one that the result was made from.
-/
namespace CodeAtlas

namespace Snapshot

theorem contains_eraseNode (g : Snapshot) (id : String) : (g.eraseNode id).contains id = false := by
  unfold eraseNode
  split
  · simp [contains, Dict.contains, Dict.find_erase]
  · rename_i absent
    simpa using absent

end Snapshot

namespace Store

/-! ### One delta -/

theorem change_differs {g g' : Snapshot} {d : Delta} (change : change? g d = some g') : g' ≠ g := by
  rintro rfl
  cases d with
  | nodeAdded n =>
    simp only [change?, Option.ite_none_left_eq_some, Option.some.injEq] at change
    obtain ⟨absent, same⟩ := change
    have there := (Snapshot.contains_insertNode (g := g') (n := n)).mpr (Or.inl rfl)
    rw [same] at there
    exact absent there
  | nodeRemoved id =>
    simp only [change?, Option.ite_none_right_eq_some, Option.some.injEq] at change
    obtain ⟨there, same⟩ := change
    have gone := g'.contains_eraseNode id
    rw [same, there] at gone
    cases gone
  | linkAdded l =>
    simp only [change?, Option.some.injEq] at change
    have counts := congrArg (fun g : Snapshot => g.links.length) change
    simp [Snapshot.addLink] at counts
  | linkRemoved l =>
    simp only [change?, Option.ite_none_right_eq_some, Option.some.injEq] at change
    obtain ⟨found, same⟩ := change
    obtain ⟨m, member, key⟩ := List.any_eq_true.mp found
    -- a link of the key is in the graph, and in what is left of it there is none
    rw [← same] at member
    have other := (List.mem_filter.mp member).2
    simp only [decide_eq_true_eq] at key
    simp [key] at other

theorem apply_outcome (s : Store) (d : Delta) :
    ((s.apply d).2 = .applied ∧ ∃ g, g ≠ s.snapshot ∧ (s.apply d).1 = s.replace g) ∨
      ((s.apply d).2 ≠ .applied ∧ (s.apply d).1 = s) := by
  unfold apply
  split
  · exact Or.inr ⟨by simp, rfl⟩
  · split
    · rename_i g change
      exact Or.inl ⟨rfl, g, change_differs change, rfl⟩
    · exact Or.inr ⟨by simp, rfl⟩

theorem applied_iff_changed (s : Store) (d : Delta) :
    (s.apply d).2 = .applied ↔ (s.apply d).1.snapshot ≠ s.snapshot := by
  rcases apply_outcome s d with ⟨applied, g, other, eq⟩ | ⟨ignored, eq⟩
  · rw [eq]
    exact ⟨fun _ => other, fun _ => applied⟩
  · rw [eq]
    exact ⟨fun applied => absurd applied ignored, fun changed => absurd rfl changed⟩

/-! ### Many operations -/

/-- Whether an operation gives the store another graph, even one that is equal to the former. -/
def mutates (s : Store) : Operation → Bool
  | .replace _ | .clear => true
  | .setLoading _ | .setError _ => false
  | .apply d => (s.apply d).2 = .applied

def mutations (s : Store) : List Operation → Nat
  | [] => 0
  | op :: rest => (s.mutates op).toNat + mutations (s.perform op) rest

theorem perform_revised (s : Store) (op : Operation) :
    Revised (s.mutates op).toNat s (s.perform op) := by
  cases op with
  | replace p => exact revised_of_replaced (fun _ => Snapshot.ofPayload_wellFormed p) rfl
  | clear => exact revised_of_replaced (fun _ => Snapshot.empty_wellFormed) rfl
  | setLoading | setError => exact revised_of_same rfl rfl
  | apply d => exact apply_revised s d

theorem run_revised (s : Store) (ops : List Operation) :
    Revised (s.mutations ops) s (s.run ops) := by
  induction ops generalizing s with
  | nil => exact revised_of_same rfl rfl
  | cons op rest ih => exact (perform_revised s op).trans (ih (s.perform op))

theorem run_append (s : Store) (ops more : List Operation) :
    s.run (ops ++ more) = (s.run ops).run more := List.foldl_append

theorem mutations_append (s : Store) (ops more : List Operation) :
    s.mutations (ops ++ more) = s.mutations ops + (s.run ops).mutations more := by
  induction ops generalizing s with
  | nil => simp [mutations, run]
  | cons op rest ih =>
    have tail := ih (s.perform op)
    simp only [List.cons_append, mutations, tail, Nat.add_assoc]
    rfl

/-- The revision comes round only after as many changes as it has values. -/
theorem Revised.same_graph {n : Nat} {s t : Store} (revised : Revised n s t)
    (few : n < UInt64.size) (same : t.revision = s.revision) : t.snapshot = s.snapshot := by
  apply revised.snapshot
  have stays := revised.revision
  rw [same] at stays
  have none : UInt64.ofNat n = 0 := UInt64.left_eq_add.mp stays
  have value := congrArg UInt64.toNat none
  rwa [UInt64.toNat_ofNat_of_lt' few] at value

theorem run_same_graph {s : Store} {early late ops : List Operation} (order : early <+: late)
    (within : late <+: ops) (few : s.mutations ops < UInt64.size)
    (same : (s.run early).revision = (s.run late).revision) :
    (s.run early).snapshot = (s.run late).snapshot := by
  obtain ⟨between, rfl⟩ := order
  obtain ⟨after, rfl⟩ := within
  rw [mutations_append, mutations_append] at few
  have revised := run_revised (s.run early) between
  rw [run_append] at same ⊢
  exact (revised.same_graph (by omega) same.symm).symm

/-- A delta is applied exactly if the graph is another one after it. Then the revision goes up by one,
round its end, and loading and error stay; a delta that is not applied leaves the store as it is. So
of all the states that operations lead through from here, changing the graph fewer times than there
are revisions, two of the same revision have the same graph. -/
theorem outcome_tells_change_and_revision_tells_graph (s : Store) :
    (∀ d,
      let t := (s.apply d).1
      ((s.apply d).2 = .applied ↔ t.snapshot ≠ s.snapshot) ∧
        ((s.apply d).2 = .applied → t.revision.toNat = (s.revision.toNat + 1) % UInt64.size ∧
          t.loading = s.loading ∧ t.error = s.error) ∧
        ((s.apply d).2 = .unchanged ∨ (s.apply d).2 = .rejected → t = s)) ∧
      ∀ ops, s.mutations ops < UInt64.size → ∀ one other, one <+: ops → other <+: ops →
        (s.run one).revision = (s.run other).revision →
          (s.run one).snapshot = (s.run other).snapshot := by
  constructor
  · intro d t
    refine ⟨applied_iff_changed s d, ?_⟩
    rcases apply_outcome s d with ⟨applied, g, _, eq⟩ | ⟨ignored, eq⟩
    · have same : t = s.replace g := eq
      rw [applied, same]
      refine ⟨fun _ => ⟨?_, rfl, rfl⟩, by simp⟩
      exact UInt64.toNat_add s.revision 1
    · exact ⟨fun applied => absurd applied ignored, fun _ => eq⟩
  · intro ops few one other first second same
    rcases List.prefix_or_prefix_of_prefix first second with order | order
    · exact run_same_graph order second few same
    · exact (run_same_graph order first few same.symm).symm

/-- A node that is there already, a link without an end and two flags come between a graph and the
removal of one of its nodes. -/
theorem refused_deltas_leave_revision_and_graph :
    let node (id : String) : Node := { id, kind := .file }
    let first : List Operation := [.replace ⟨[node "a", node "b"], []⟩]
    let refused : List Operation := [.apply (.nodeAdded { node "a" with kind := .method }),
      .setLoading true, .apply (.linkAdded ⟨.bare "a", .bare "c", .calls⟩), .setError none]
    let ops := first ++ refused ++ [.apply (.nodeRemoved "b")]
    mutations {} ops = 2 ∧ (run {} first).revision = (run {} (first ++ refused)).revision ∧
      (run {} first).snapshot = (run {} (first ++ refused)).snapshot ∧
      (run {} ops).revision ≠ (run {} first).revision := by
  intro node first refused ops
  have count : mutations {} ops = 2 := by decide
  have same : (run {} first).revision = (run {} (first ++ refused)).revision := by decide
  have keyed := (outcome_tells_change_and_revision_tells_graph {}).2 ops (by rw [count]; decide)
  refine ⟨count, same, ?_, by decide⟩
  exact keyed first (first ++ refused) ⟨_, (List.append_assoc _ _ _).symm⟩ ⟨_, rfl⟩ same

end Store

end CodeAtlas
