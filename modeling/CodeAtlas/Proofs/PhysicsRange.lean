import CodeAtlas.Layout.Physics
import CodeAtlas.Proofs.TreeMembers

/-!
A step of the physics reads and writes its arrays by number. Given springs between bodies that are
there, no number is out of range at any place, and the step leaves the bodies in their order.
-/
namespace CodeAtlas.Layout

variable {α : Type} [Scalar α]

theorem foldl_size {γ δ : Type} {step : Array γ → δ → Array γ}
    (keeps : ∀ a x, (step a x).size = a.size) (xs : List δ) (a : Array γ) :
    (xs.foldl step a).size = a.size := by
  induction xs generalizing a with
  | nil => rfl
  | cons x rest ih => rw [List.foldl_cons, ih, keeps]

theorem partPair_size (c : Collision α) (b : Bodies α) (radii : Array α) (forces : Array (Vec α))
    (pair : Nat × Nat) : (c.partPair b radii forces pair).size = forces.size := by
  simp only [Collision.partPair]
  split <;> simp

namespace Field

theorem pull_size (f : Field α) (strength : α) (forces : Array (Vec α)) (s : Spring) :
    (f.pull strength forces s).size = forces.size := by
  simp only [pull]
  split <;> simp

theorem repulsion_size (f : Field α) (t : Tuning α) : (f.repulsion t).size = f.size := by
  unfold repulsion
  split
  · split <;> simp
  · simp

theorem collide_size (f : Field α) (t : Tuning α) (forces : Array (Vec α)) :
    (f.collide t forces).size = forces.size := by
  unfold collide
  split
  · exact foldl_size (partPair_size _ _ _) _ forces
  · rfl

theorem forces_size (f : Field α) (t : Tuning α) (springs : List Spring) (center : Vec α) :
    (f.forces t springs center).size = f.size := by
  simp only [forces, Array.size_mapIdx]
  rw [foldl_size (pull_size f _), collide_size, repulsion_size]

/-- Each array has a place for each body, and each number that a step looks up is that of a body:
the ends of springs, the bodies in the cells of the tree, the pairs that may touch, and the bodies
that another one feels. -/
structure InRange (f : Field α) (springs : List Spring) : Prop where
  weights : f.bodies.weights.size = f.size
  radii : f.radii.size = f.size
  velocities : f.velocities.size = f.size
  repelled : ∀ t, (f.repulsion t).size = f.size
  parted : ∀ t, (f.collide t (f.repulsion t)).size = f.size
  forces : ∀ t center, (f.forces t springs center).size = f.size
  springs : ∀ s ∈ springs, s.source < f.size ∧ s.target < f.size
  cells : ∀ tree, f.tree = some tree → ∀ i ∈ tree.members, i < f.size
  pairs : ∀ tree, f.tree = some tree → ∀ apart, ∀ p ∈ tree.within apart,
    p.1 < f.size ∧ p.2 < f.size
  felt : ∀ tree, f.tree = some tree → ∀ theta i point j,
    .body j ∈ tree.influences theta i point → j < f.size

theorem ofBodies_size (bodies : Array (Body α)) : (ofBodies bodies).size = bodies.size := by
  simp [ofBodies, size]

theorem ofBodies_inRange (bodies : Array (Body α)) {springs : List Spring}
    (joined : ∀ s ∈ springs, s.source < bodies.size ∧ s.target < bodies.size) :
    (ofBodies bodies).InRange springs := by
  have cells : ∀ tree, (ofBodies bodies).tree = some tree →
      ∀ i ∈ tree.members, i < (ofBodies bodies).size := by
    intro tree built
    exact Quadtree.build_members built
  exact {
    weights := by simp [ofBodies, size]
    radii := by simp [ofBodies, size]
    velocities := by simp [ofBodies, size]
    repelled := repulsion_size _
    parted := by
      intro t
      rw [collide_size, repulsion_size]
    forces := by
      intro t center
      exact forces_size _ t springs center
    springs := by
      intro s member
      rw [ofBodies_size]
      exact joined s member
    cells
    pairs := by
      intro tree built apart p member
      obtain ⟨first, second⟩ := Quadtree.within_members apart tree member
      exact ⟨cells tree built p.1 first, cells tree built p.2 second⟩
    felt := by
      intro tree built theta i point j member
      exact cells tree built j (Quadtree.influences_members theta i point tree member) }

end Field

def idsOf (bodies : Array (Body α)) : Array String := bodies.map (·.id)

def outlineOf (bodies : Array (Body α)) : Array (String × NodeKind) :=
  bodies.map fun b => (b.id, b.kind)

/-! ### What a step leaves as it is -/

section

variable {γ : Type} {read : Body α → γ}

theorem move_same (same : ∀ b position velocity, read { b with position, velocity } = read b)
    (m : Motion α) (b : Body α) (force : Vec α) : read (m.move b force) = read b := by
  unfold Motion.move
  split
  · exact same b _ _
  · exact same b _ _

theorem settle_same (same : ∀ b position velocity, read { b with position, velocity } = read b)
    (center : Vec α) (bodies : Array (Body α)) :
    (settle center bodies).map read = bodies.map read := by
  simp only [settle]
  split
  · simp [Function.comp_def, same]
  · rfl

theorem advance_same (same : ∀ b position velocity, read { b with position, velocity } = read b)
    (t : Tuning α) (springs : List Spring) (center : Vec α) (alpha seconds : α)
    (bodies : Array (Body α)) :
    (advance t springs center alpha seconds bodies).1.map read = bodies.map read := by
  simp only [advance, settle_same same]
  apply Array.ext
  · simp
  · intro i _ _
    simp [move_same same]

end

end CodeAtlas.Layout
