import CodeAtlas.Proofs.LayoutPins
import CodeAtlas.Proofs.LayoutShows

/-!
What a new start of the layout makes of the one before it. A node that was laid out stays where it
was, with its pin. A new node is placed beside the first of its neighbours that was laid out, or
beside the center; a neighbour that is new itself is passed over, so the order in which new nodes
are placed does not matter.
-/
namespace CodeAtlas.Layout

variable {α : Type}

def Spring.Joins (s : Spring) (i j : Nat) : Prop :=
  s.source = i ∧ s.target = j ∨ s.target = i ∧ s.source = j

namespace Engine

/-- Body `i` of the layout `f` is the one that was `old` in `e`. -/
def Carries (e f : Engine α) (i : Nat) (old : Body α) : Prop :=
  old ∈ e.bodies.toList ∧ ∃ b, f.bodies[i]? = some b ∧ b.id = old.id

/-- The point beside which body `i` is placed: where the first spring that leads to a carried body
finds it, and the center if none does. -/
inductive Anchor (e f : Engine α) (center : Vec α) (i : Nat) : Vec α → Prop
  | neighbour {earlier later : List Spring} {s : Spring} {j : Nat} {old : Body α}
      (split : f.springs = earlier ++ s :: later) (joins : s.Joins i j)
      (carried : e.Carries f j old)
      (first : ∀ t ∈ earlier, ∀ k, t.Joins i k → ∀ other, ¬ e.Carries f k other) :
      Anchor e f center i old.position
  | center (alone : ∀ t ∈ f.springs, ∀ k, t.Joins i k → ∀ other, ¬ e.Carries f k other) :
      Anchor e f center i center

variable [Scalar α]

/-- The layout `f` is a new start of `e` for a view. -/
structure Restarts (e f : Engine α) (v : View) (viewport : Vec α) : Prop where
  generation : f.generation = e.generation + 1
  structureKey : f.structureKey = some v.fingerprint
  size : f.viewport = viewport
  tuning : f.tuning = e.tuning
  frame : f.frame = ⟨f.generation, 0, f.bodies.map (·.position)⟩
  running : f.isRunning = true
  shows : f.Shows v
  carried : ∀ i b old, f.bodies[i]? = some b → e.Carries f i old →
    b.position = old.position ∧ b.pin = old.pin ∧ b.velocity = Vec.zero
  placed : ∀ i b, f.bodies[i]? = some b → (∀ old, ¬ e.Carries f i old) →
    b.pin = none ∧ b.velocity = Vec.zero ∧
      ∃ anchor, e.Anchor f (viewport.scale (Scalar.decimal 5 1)) i anchor ∧
        b.position = startPosition b.id i anchor

end Engine

/-! ### The neighbour beside which a new node is placed -/

section

variable {springs : List Spring} {placed : Array (Option (Body α))} {i : Nat}

theorem anchorOf_single_eq_some {s : Spring} {b : Body α}
    (found : anchorOf [s] placed i = some b) :
    ∃ j, s.Joins i j ∧ placed.getD j none = some b := by
  simp only [anchorOf, List.findSome?_singleton] at found
  split at found
  · rename_i body there
    rw [Option.ite_none_right_eq_some] at there
    exact ⟨s.target, Or.inl ⟨there.1, rfl⟩, there.2.trans found⟩
  · rw [Option.ite_none_right_eq_some] at found
    exact ⟨s.source, Or.inr ⟨found.1, rfl⟩, found.2⟩

theorem anchorOf_single_eq_none {s : Spring} (missing : anchorOf [s] placed i = none) {j : Nat}
    (joins : s.Joins i j) : placed.getD j none = none := by
  simp only [anchorOf, List.findSome?_singleton] at missing
  split at missing
  · cases missing
  · rename_i unplaced
    rcases joins with ⟨rfl, rfl⟩ | ⟨rfl, rfl⟩
    · simpa using unplaced
    · simpa using missing

theorem anchorOf_eq_some {b : Body α} (found : anchorOf springs placed i = some b) :
    ∃ earlier s later j, springs = earlier ++ s :: later ∧ s.Joins i j ∧
      placed.getD j none = some b ∧
      ∀ t ∈ earlier, ∀ k, t.Joins i k → placed.getD k none = none := by
  obtain ⟨earlier, s, later, split, here, before⟩ := List.findSome?_eq_some_iff.mp found
  obtain ⟨j, joins, there⟩ := anchorOf_single_eq_some (by simpa [anchorOf] using here)
  refine ⟨earlier, s, later, j, split, joins, there, ?_⟩
  intro t member k joins
  exact anchorOf_single_eq_none (by simpa [anchorOf] using before t member) joins

theorem anchorOf_eq_none (missing : anchorOf springs placed i = none) :
    ∀ t ∈ springs, ∀ k, t.Joins i k → placed.getD k none = none := by
  intro t member k joins
  have unplaced := List.findSome?_eq_none_iff.mp missing t member
  exact anchorOf_single_eq_none (by simpa [anchorOf] using unplaced) joins

end

/-! ### A new start, node by node -/

variable [Scalar α] {v : View} {center : Vec α} {before : Array (Body α)} {i : Nat} {b : Body α}

theorem start_carried {old : Body α}
    (there : (Simulation.start v center before).bodies[i]? = some b)
    (prior : (priors v before).getD i none = some old) :
    b.position = old.position ∧ b.pin = old.pin ∧ b.velocity = Vec.zero := by
  simp only [Simulation.start, List.getElem?_toArray, List.getElem?_mapIdx,
    Option.map_eq_some_iff] at there
  obtain ⟨n, node, made⟩ := there
  rw [← priors, prior] at made
  subst made
  exact ⟨rfl, rfl, rfl⟩

theorem start_placed (there : (Simulation.start v center before).bodies[i]? = some b)
    (new : (priors v before).getD i none = none) :
    b.pin = none ∧ b.velocity = Vec.zero ∧
      b.position = startPosition b.id i
        (((anchorOf (Simulation.start v center before).springs (priors v before) i).map
          (·.position)).getD center) := by
  simp only [Simulation.start, List.getElem?_toArray, List.getElem?_mapIdx,
    Option.map_eq_some_iff] at there
  obtain ⟨n, node, made⟩ := there
  rw [← priors, new] at made
  subst made
  exact ⟨rfl, rfl, rfl⟩

namespace Engine

variable {e f : Engine α} (aligned : e.Aligned)
  (started : f.simulation = some (Simulation.start v center e.bodies))

include aligned started

theorem carries_iff {old : Body α} :
    e.Carries f i old ↔ (priors v e.bodies).getD i none = some old := by
  have ids := start_ids v center e.bodies
  -- the identities of the new bodies are those of the nodes, also where the kind has changed
  have named (id : String) :
      (∃ b, f.bodies[i]? = some b ∧ b.id = id) ↔ ∃ n, v.nodes[i]? = some n ∧ n.id = id := by
    have place := congrArg (·[i]? = some id) ids
    simpa [bodies, started, idsOf] using place
  rw [Carries, named, priors_getD, Option.bind_eq_some_iff]
  constructor
  · rintro ⟨member, n, node, same⟩
    exact ⟨n, node, aligned.find_body.mpr ⟨member, same.symm⟩⟩
  · rintro ⟨n, node, found⟩
    obtain ⟨member, same⟩ := aligned.find_body.mp found
    exact ⟨member, n, node, same.symm⟩

theorem not_carries_iff :
    (∀ old, ¬ e.Carries f i old) ↔ (priors v e.bodies).getD i none = none := by
  simp only [carries_iff aligned started, Option.eq_none_iff_forall_ne_some, ne_eq]

theorem start_anchor (i : Nat) : e.Anchor f center i
    (((anchorOf f.springs (priors v e.bodies) i).map (·.position)).getD center) := by
  cases found : anchorOf f.springs (priors v e.bodies) i with
  | none =>
    apply Anchor.center
    intro t member k joins
    exact (not_carries_iff aligned started).mpr (anchorOf_eq_none found t member k joins)
  | some old =>
    obtain ⟨earlier, s, later, j, split, joins, there, unplaced⟩ := anchorOf_eq_some found
    -- only bodies of before are looked up, so none that is placed by this start can be the anchor
    refine Anchor.neighbour split joins ((carries_iff aligned started).mpr there) ?_
    intro t member k joins
    exact (not_carries_iff aligned started).mpr (unplaced t member k joins)

end Engine

namespace Engine

theorem sync_restarts {e : Engine α} (aligned : e.Aligned) {g : Snapshot} (wf : g.WellFormed)
    (c : Criteria) (viewport : Vec α) (other : e.isFor (View.of g c) viewport = false) :
    (e.sync (View.of g c) viewport).2 = true ∧
      e.Restarts (e.sync (View.of g c) viewport).1 (View.of g c) viewport := by
  rw [sync, other]
  refine ⟨rfl, rfl, rfl, rfl, rfl, rfl, rfl, start_shows wf c _ rfl, ?_, ?_⟩
  · intro i b old there carried
    exact start_carried there ((carries_iff aligned rfl).mp carried)
  · intro i b there new
    obtain ⟨pin, velocity, position⟩ := start_placed there ((not_carries_iff aligned rfl).mp new)
    exact ⟨pin, velocity, _, start_anchor aligned rfl i, position⟩

/-- Whatever was done to a layout since it was new: laying out a view of a stored graph leaves it
wholly as it is, if it is one of that view and viewport already, and else starts it anew. -/
theorem sync_keeps_or_restarts (tuning : Tuning α) (actions : List (Action α))
    (ops : List Store.Operation) (c : Criteria) (viewport : Vec α) :
    let e := (new tuning).run actions
    let v := View.of (Store.run {} ops).snapshot c
    (e.isFor v viewport = true ∧ e.sync v viewport = (e, false)) ∨
      (e.isFor v viewport = false ∧ (e.sync v viewport).2 = true ∧
        e.Restarts (e.sync v viewport).1 v viewport) := by
  intro e v
  cases same : e.isFor v viewport with
  | true => exact Or.inl ⟨rfl, by rw [sync, if_pos same]⟩
  | false =>
    have aligned : e.Aligned := run_aligned (new_aligned tuning) actions
    have wf : (Store.run {} ops).snapshot.WellFormed :=
      Store.run_wellFormed Snapshot.empty_wellFormed ops
    exact Or.inr ⟨rfl, sync_restarts aligned wf c viewport same⟩

-- a layout is kept for the same view and starts anew for a larger one, with a held node in its place
example :
    let view (ids : List String) : View :=
      .of (Store.run {} [.replace ⟨ids.map fun id => { id, kind := .file }, []⟩]).snapshot {}
    let first : Engine Float32 := ((new .standard).sync (view ["A"]) ⟨100, 100⟩).1
    let held := (first.beginDrag "A" ⟨30, 40⟩).1
    let (next, started) := held.sync (view ["A", "B"]) ⟨100, 100⟩
    (held.sync (view ["A"]) ⟨100, 100⟩).2 = false ∧ started = true ∧ next.generation = 2 ∧
      (next.bodies.map fun b => (b.id, b.pin)) = #[("A", some ⟨30, 40⟩), ("B", none)] ∧
      next.frame.positions[0]? = some ⟨30, 40⟩ := by
  decide +kernel

end Engine

end CodeAtlas.Layout
