import CodeAtlas.Layout.Forces
import CodeAtlas.Proofs.CellGeometry
import Mathlib.Algebra.BigOperators.Group.List.Basic

/-!
Whom a body feels. On the way down the tree it meets the bodies of leaves one by one, and cells that
look small as a whole. The bodies met in both ways are all others, each once, provided that no cell
is without charge and that a cell which holds the body is not taken as a whole. In exact numbers,
and with positive weights, both are so: squares hold their bodies.
-/
namespace CodeAtlas.Layout.Quadtree

variable {α : Type}

/-- What is behind an influence: another body, or a cell with all bodies below it. -/
inductive Source (α : Type) where
  | body (index : Nat)
  | cell (t : Quadtree α)

namespace Source

def influence : Source α → Influence α
  | body j => .body j
  | cell t => .cell t.cell

def bodies : Source α → List Nat
  | body j => [j]
  | cell t => t.members

def In (t : Quadtree α) : Source α → Prop
  | body j => ∃ c is, t.Has (.leaf c is) ∧ j ∈ is
  | cell u => t.Has u

theorem In.child {c : Cell α} {own : List Nat} {ts : List (Quadtree α)} {t : Quadtree α}
    (member : t ∈ ts) {s : Source α} (there : s.In t) : s.In (.fork c own ts) := by
  cases s with
  | body j =>
    obtain ⟨d, is, has, among⟩ := there
    exact ⟨d, is, .child member has, among⟩
  | cell u => exact Has.child member there

end Source

variable [Scalar α]

mutual

def sources (theta : α) (index : Nat) (point : Vec α) : Quadtree α → List (Source α)
  | .leaf c is =>
    if Scalar.le c.charge Scalar.zero then []
    else (is.filter (· ≠ index)).map .body
  | .fork c is ts =>
    if Scalar.le c.charge Scalar.zero then []
    else if looksSmall c theta point then [.cell (.fork c is ts)]
    else sourcesAll theta index point ts

def sourcesAll (theta : α) (index : Nat) (point : Vec α) : List (Quadtree α) → List (Source α)
  | [] => []
  | t :: ts => sources theta index point t ++ sourcesAll theta index point ts

end

section

variable {theta : α} {index : Nat} {point : Vec α}

mutual

theorem influences_eq (t : Quadtree α) :
    influences theta index point t = (sources theta index point t).map Source.influence := by
  cases t with
  | leaf c is =>
    rw [influences, sources]
    split
    · rfl
    · rw [List.map_map]
      rfl
  | fork c is ts =>
    rw [influences, sources]
    split
    · rfl
    · split
      · rfl
      · exact influencesAll_eq ts

theorem influencesAll_eq (ts : List (Quadtree α)) :
    influencesAll theta index point ts =
      (sourcesAll theta index point ts).map Source.influence := by
  cases ts with
  | nil => rfl
  | cons t rest =>
    rw [influencesAll, sourcesAll, List.map_append, influences_eq t, influencesAll_eq rest]

end

/-- Each cell has charge, and its square holds the point if the body is below it. -/
structure Fair (index : Nat) (point : Vec α) (t : Quadtree α) : Prop where
  charged : Scalar.le t.cell.charge Scalar.zero = false
  holds : index ∈ t.members → t.bounds.contains point = true

mutual

theorem sources_bodies (t : Quadtree α) (fair : ∀ u, t.Has u → Fair index point u) :
    (sources theta index point t).flatMap Source.bodies = t.members.filter (· ≠ index) := by
  have here := fair t (.self t)
  cases t with
  | leaf c is =>
    have charged : Scalar.le c.charge Scalar.zero = false := here.charged
    rw [sources, if_neg (Bool.eq_false_iff.mp charged), List.flatMap_map, members]
    exact List.flatMap_singleton' _
  | fork c is ts =>
    have charged : Scalar.le c.charge Scalar.zero = false := here.charged
    rw [sources, if_neg (Bool.eq_false_iff.mp charged)]
    by_cases small : looksSmall c theta point = true
    · rw [if_pos small, List.flatMap_singleton]
      -- the point is outside the square, so the body is not below the cell
      refine (List.filter_eq_self.mpr fun j below => ?_).symm
      refine decide_eq_true fun same => ?_
      have inside : c.bounds.contains point = true := here.holds (same ▸ below)
      simp [looksSmall, inside] at small
    · rw [if_neg small, members]
      exact sourcesAll_bodies ts fun u member v has => fair v (.child member has)

theorem sourcesAll_bodies (ts : List (Quadtree α))
    (fair : ∀ t ∈ ts, ∀ u, t.Has u → Fair index point u) :
    (sourcesAll theta index point ts).flatMap Source.bodies =
      (membersAll ts).filter (· ≠ index) := by
  cases ts with
  | nil => rfl
  | cons t rest =>
    rw [sourcesAll, List.flatMap_append, membersAll, List.filter_append,
      sources_bodies t (fair t List.mem_cons_self),
      sourcesAll_bodies rest fun u member => fair u (List.mem_cons_of_mem t member)]

end

mutual

theorem sources_in {t : Quadtree α} {s : Source α} (seen : s ∈ sources theta index point t) :
    s.In t := by
  cases t with
  | leaf c is =>
    rw [sources] at seen
    split at seen
    · cases seen
    · obtain ⟨j, among, rfl⟩ := List.mem_map.mp seen
      exact ⟨c, is, .self _, (List.mem_filter.mp among).1⟩
  | fork c is ts =>
    rw [sources] at seen
    split at seen
    · cases seen
    · split at seen
      · obtain rfl := List.mem_singleton.mp seen
        exact Has.self _
      · obtain ⟨u, member, there⟩ := sourcesAll_in seen
        exact there.child member

theorem sourcesAll_in {ts : List (Quadtree α)} {s : Source α}
    (seen : s ∈ sourcesAll theta index point ts) : ∃ t ∈ ts, s.In t := by
  cases ts with
  | nil => cases seen
  | cons t rest =>
    rw [sourcesAll, List.mem_append] at seen
    rcases seen with first | later
    · exact ⟨t, List.mem_cons_self, sources_in first⟩
    · obtain ⟨u, member, there⟩ := sourcesAll_in later
      exact ⟨u, List.mem_cons_of_mem t member, there⟩

end

end

/-! ### Exact numbers -/

section

variable (points : Array (Vec ℝ)) (weights : Array ℝ)

def weightAt (weights : Array ℝ) (i : Nat) : ℝ := weights.getD i 1

def totalWeight (weights : Array ℝ) (bodies : List Nat) : ℝ := (bodies.map (weightAt weights)).sum

/-- The mean of the places of some bodies, each as often as it weighs. -/
noncomputable def weightedMean (bodies : List Nat) : Vec ℝ where
  x := (bodies.map fun i => (pointAt points i).x * weightAt weights i).sum /
    totalWeight weights bodies
  y := (bodies.map fun i => (pointAt points i).y * weightAt weights i).sum /
    totalWeight weights bodies

variable {points weights}

noncomputable def realParting (delta : Vec ℝ) (distance : ℝ) (i j : Nat) : Vec ℝ :=
  if Scalar.realDecimal 1 4 < distance then ⟨delta.x / distance, delta.y / distance⟩
  else
    let turns := i * Scalar.realDecimal 618034 6 + j * Scalar.realDecimal 414214 6
    let angle := turns * Scalar.realDecimal 6283185307179586 15
    ⟨Real.cos angle, Real.sin angle⟩

/-- What a source adds to the force on body `i`. All the weight of its bodies acts from their
weighted mean; a cell is never closer than a hundredth. -/
noncomputable def Source.share (strength softening : ℝ) (points : Array (Vec ℝ))
    (weights : Array ℝ) (i : Nat) (s : Source α) : Vec ℝ :=
  let mean := weightedMean points weights s.bodies
  let delta : Vec ℝ := ⟨(pointAt points i).x - mean.x, (pointAt points i).y - mean.y⟩
  let distanceSq := delta.x * delta.x + delta.y * delta.y
  let size (distanceSq : ℝ) :=
    strength * weightAt weights i * totalWeight weights s.bodies / (distanceSq + softening)
  match s with
  | body j =>
    let direction := realParting delta √distanceSq i j
    ⟨direction.x * size distanceSq, direction.y * size distanceSq⟩
  | cell _ =>
    let far := max distanceSq (Scalar.realDecimal 1 4)
    ⟨delta.x / √far * size far, delta.y / √far * size far⟩

end

/-! ### A crowd far away -/

end CodeAtlas.Layout.Quadtree
