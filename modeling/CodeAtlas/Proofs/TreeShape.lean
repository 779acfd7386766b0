import CodeAtlas.Proofs.GrownTrees

/-!
The shape of a quadtree, over any numbers and whatever their comparisons answer. The leaves share
the bodies out among them, and only leaves list bodies. A cell that is opened has its children in
different quarters, at least two of them; a cell stays closed with many bodies only where it cannot
be split any more, or where a split would leave them together.
-/
namespace CodeAtlas.Layout.Quadtree

variable {α : Type}

def children : Quadtree α → List (Quadtree α)
  | .leaf _ _ => []
  | .fork _ _ ts => ts

def isLeaf (t : Quadtree α) : Bool := t.children.isEmpty

mutual

def cellsFrom (depth : Nat) : Quadtree α → List (Nat × Quadtree α)
  | .leaf c is => [(depth, .leaf c is)]
  | .fork c is ts => (depth, .fork c is ts) :: cellsFromAll (depth + 1) ts

def cellsFromAll (depth : Nat) : List (Quadtree α) → List (Nat × Quadtree α)
  | [] => []
  | t :: ts => cellsFrom depth t ++ cellsFromAll depth ts

end

def cells (t : Quadtree α) : List (Nat × Quadtree α) := t.cellsFrom 0

def leaves (t : Quadtree α) : List (Nat × Quadtree α) := t.cells.filter fun c => c.2.isLeaf

theorem mem_cellsFromAll {depth : Nat} {ts : List (Quadtree α)} {c : Nat × Quadtree α} :
    c ∈ cellsFromAll depth ts ↔ ∃ t ∈ ts, c ∈ t.cellsFrom depth := by
  induction ts with
  | nil => simp [cellsFromAll]
  | cons t rest ih => simp [cellsFromAll, ih]

theorem cellsFromAll_eq (depth : Nat) (ts : List (Quadtree α)) :
    cellsFromAll depth ts = ts.flatMap (cellsFrom depth) := by
  induction ts with
  | nil => rfl
  | cons t rest ih => rw [cellsFromAll, List.flatMap_cons, ih]

variable [Scalar α]

/-! ### A split -/

theorem sorted_bucket {b : Bodies α} {bounds : Bounds α} {indices : List Nat}
    (sorted : indices.Pairwise (· < ·)) {part : Bounds α × List Nat}
    (member : part ∈ buckets b bounds indices) : part.2.Pairwise (· < ·) := by
  simp only [buckets, List.mem_filterMap, Option.ite_none_left_eq_some, Option.some.injEq]
    at member
  obtain ⟨q, _, _, eq⟩ := member
  subst eq
  exact sorted.filter _

theorem buckets_squares (b : Bodies α) (bounds : Bounds α) (indices : List Nat) :
    ((buckets b bounds indices).map (·.1)).Sublist
      (quarters.map fun q => bounds.quarter q.1 q.2) := by
  unfold buckets
  induction quarters with
  | nil => exact List.Sublist.slnil
  | cons q rest ih =>
    rw [List.filterMap_cons, List.map_cons]
    dsimp only
    by_cases none : (indices.filter fun i => bounds.quarterOf (b.position i) = q).isEmpty = true
    · rw [if_pos none]
      exact ih.cons _
    · rw [if_neg none]
      exact ih.cons_cons _

theorem one_quarter_of_buckets {b : Bodies α} {bounds : Bounds α} {indices : List Nat}
    (together : (buckets b bounds indices).length ≤ 1) :
    ∃ q, ∀ i ∈ indices, bounds.quarterOf (b.position i) = q := by
  have dealt := buckets_perm b bounds indices
  cases parts : buckets b bounds indices with
  | nil =>
    refine ⟨(false, false), ?_⟩
    intro i member
    have lost := dealt.mem_iff.mpr member
    rw [parts] at lost
    cases lost
  | cons part rest =>
    have only : rest = [] := by
      rw [parts, List.length_cons] at together
      exact List.length_eq_zero_iff.mp (by omega)
    subst only
    have first : part ∈ buckets b bounds indices := by simp [parts]
    obtain ⟨q, _, same, _, _⟩ := mem_buckets first
    refine ⟨q, ?_⟩
    intro i member
    have kept := dealt.mem_iff.mpr member
    rw [parts, List.flatMap_singleton] at kept
    exact same i kept

/-! ### The cells of a grown tree -/

theorem grow_bounds (b : Bodies α) (splits : Nat) (bounds : Bounds α) (indices : List Nat) :
    (grow b splits bounds indices).bounds = bounds := by
  rw [Quadtree.bounds, grow_cell, Bodies.cell]

/-- Each cell is grown from a part of the bodies, in their order; the deeper it is, the fewer splits
it has left. -/
theorem mem_cellsFrom_grow {b : Bodies α} {splits : Nat} {bounds : Bounds α} {indices : List Nat}
    (sorted : indices.Pairwise (· < ·)) {first depth : Nat} {u : Quadtree α}
    (member : (depth, u) ∈ (grow b splits bounds indices).cellsFrom first) :
    ∃ left square bodies, u = grow b left square bodies ∧ depth + left = first + splits ∧
      bodies.Pairwise (· < ·) := by
  induction splits generalizing bounds indices first with
  | zero =>
    simp only [grow, cellsFrom, List.mem_singleton, Prod.mk.injEq] at member
    obtain ⟨rfl, rfl⟩ := member
    exact ⟨0, bounds, indices, rfl, rfl, sorted⟩
  | succ fewer ih =>
    rcases grow_cases b (fewer + 1) bounds indices with ⟨leaf, _⟩ | ⟨same, eq, _, _, fork⟩
    · rw [leaf, cellsFrom, List.mem_singleton, Prod.mk.injEq] at member
      obtain ⟨rfl, rfl⟩ := member
      exact ⟨fewer + 1, bounds, indices, leaf.symm, rfl, sorted⟩
    · obtain rfl : fewer = same := by omega
      rw [fork, cellsFrom, List.mem_cons, Prod.mk.injEq, mem_cellsFromAll] at member
      rcases member with ⟨rfl, rfl⟩ | ⟨t, child, below⟩
      · exact ⟨fewer + 1, bounds, indices, fork.symm, rfl, sorted⟩
      · obtain ⟨part, among, rfl⟩ := List.mem_map.mp child
        obtain ⟨left, square, bodies, cell, deeper, order⟩ := ih (sorted_bucket sorted among) below
        exact ⟨left, square, bodies, cell, by omega, order⟩

theorem grow_leaf {b : Bodies α} {splits : Nat} {bounds : Bounds α} {indices : List Nat}
    (closed : (grow b splits bounds indices).isLeaf = true) :
    (grow b splits bounds indices).listed = indices ∧
      (splits = 0 ∨ indices.length ≤ leafCapacity ∨
        ∃ q, ∀ i ∈ indices, bounds.quarterOf (b.position i) = q) := by
  rcases grow_cases b splits bounds indices with ⟨leaf, why⟩ | ⟨fewer, _, _, parts, fork⟩
  · rw [leaf, listed]
    refine ⟨rfl, ?_⟩
    rcases why with spent | few | together
    · exact Or.inl spent
    · exact Or.inr (Or.inl few)
    · exact Or.inr (Or.inr (one_quarter_of_buckets together))
  · rw [fork, isLeaf, children, List.isEmpty_iff, List.map_eq_nil_iff] at closed
    rw [closed] at parts
    cases parts

theorem grow_inner {b : Bodies α} {splits : Nat} {bounds : Bounds α} {indices : List Nat}
    (opened : (grow b splits bounds indices).isLeaf = false) :
    (grow b splits bounds indices).listed = [] ∧
      2 ≤ (grow b splits bounds indices).children.length ∧
      ((grow b splits bounds indices).children.map Quadtree.bounds).Sublist
        (quarters.map fun q => bounds.quarter q.1 q.2) ∧
      0 < splits ∧ leafCapacity < indices.length := by
  rcases grow_cases b splits bounds indices with ⟨leaf, _⟩ | ⟨fewer, eq, many, parts, fork⟩
  · rw [leaf] at opened
    cases opened
  · have squares : ((buckets b bounds indices).map fun part =>
        grow b fewer part.1 part.2).map Quadtree.bounds = (buckets b bounds indices).map (·.1) := by
      rw [List.map_map]
      exact List.map_congr_left fun part _ => grow_bounds b fewer part.1 part.2
    rw [fork, listed, children, squares, List.length_map]
    exact ⟨rfl, parts, buckets_squares b bounds indices, by omega, many⟩

theorem grow_listed (b : Bodies α) (splits : Nat) (bounds : Bounds α) (indices : List Nat)
    (depth : Nat) :
    (((grow b splits bounds indices).cellsFrom depth).filter fun c => c.2.isLeaf).flatMap
      (fun c => c.2.listed) = (grow b splits bounds indices).members := by
  induction splits generalizing bounds indices depth with
  | zero => simp [grow, cellsFrom, isLeaf, children, listed, members]
  | succ fewer ih =>
    rcases grow_cases b (fewer + 1) bounds indices with ⟨leaf, _⟩ | ⟨same, eq, _, parts, fork⟩
    · simp [leaf, cellsFrom, isLeaf, children, listed, members]
    · obtain rfl : fewer = same := by omega
      have opened : (grow b (fewer + 1) bounds indices).isLeaf = false := by
        have some : buckets b bounds indices ≠ [] := List.ne_nil_of_length_pos (by omega)
        simpa [fork, isLeaf, children] using some
      rw [fork] at opened ⊢
      rw [cellsFrom, List.filter_cons_of_neg (by simp [opened]), cellsFromAll_eq, List.filter_flatMap,
        List.flatMap_assoc, members, membersAll_eq, List.flatMap_map, List.flatMap_map]
      simp only [ih]

/-! ### A built tree -/

/-- The leaves of a tree list each body once, in ascending order. No cell is deeper than `maxDepth`.
A cell with children lists no body; it has two children or more, in different quarters, and it is
open only because it has too many bodies for a leaf and is not at the greatest depth. A leaf with
too many bodies is at the greatest depth, or all its bodies are in one quarter. -/
theorem leaves_share_bodies_and_splits_part {b : Bodies α} {tree : Quadtree α}
    (built : build b = some tree) :
    (tree.leaves.flatMap fun c => c.2.listed).Perm (List.range b.positions.size) ∧
      ∀ depth u, (depth, u) ∈ tree.cells →
        depth ≤ maxDepth ∧
        (u.isLeaf = true → u.listed.Pairwise (· < ·) ∧
          (leafCapacity < u.listed.length → depth = maxDepth ∨
            ∃ q, ∀ i ∈ u.listed, u.bounds.quarterOf (b.position i) = q)) ∧
        (u.isLeaf = false → u.listed = [] ∧ 2 ≤ u.children.length ∧
          (u.children.map Quadtree.bounds).Sublist
            (quarters.map fun q => u.bounds.quarter q.1 q.2) ∧
          depth < maxDepth ∧ leafCapacity < u.members.length) := by
  have shared := build_perm built
  obtain ⟨around, _, rfl⟩ := Option.map_eq_some_iff.mp built
  refine ⟨?_, ?_⟩
  · rw [leaves, cells, grow_listed]
    exact shared
  · intro depth u member
    obtain ⟨left, square, bodies, rfl, deeper, sorted⟩ :=
      mem_cellsFrom_grow List.pairwise_lt_range member
    refine ⟨by omega, ?_, ?_⟩
    · intro closed
      obtain ⟨listing, why⟩ := grow_leaf closed
      rw [listing, grow_bounds]
      refine ⟨sorted, ?_⟩
      intro crowded
      rcases why with spent | few | together
      · exact Or.inl (by omega)
      · omega
      · exact Or.inr together
    · intro opened
      obtain ⟨listing, two, squares, splits, many⟩ := grow_inner opened
      rw [grow_bounds, (grow_members_perm b left square bodies).length_eq]
      exact ⟨listing, two, squares, by omega, many⟩

/-- Thirteen bodies lie on one spot, one is elsewhere and one is nowhere. The thirteen stay together
in one leaf, though it could be split. -/
theorem heap_of_bodies_stays_one_leaf :
    let points : List (Vec Float32) := ⟨0.0 / 0.0, 1⟩ :: (List.replicate 13 ⟨5, 5⟩ ++ [⟨0, 0⟩])
    let b : Bodies Float32 := ⟨points.toArray, #[]⟩
    ∃ tree, build b = some tree ∧
      tree.leaves.map (fun c => (c.1, c.2.listed)) = [(1, [0, 14]), (1, List.range' 1 13)] ∧
      (tree.leaves.flatMap fun c => c.2.listed).Perm (List.range 15) ∧
      ∀ depth u, (depth, u) ∈ tree.leaves → leafCapacity < u.listed.length →
        depth = maxDepth ∨ ∃ q, ∀ i ∈ u.listed, u.bounds.quarterOf (b.position i) = q := by
  intro points b
  have some : (build b).isSome = true := by decide +kernel
  obtain ⟨tree, built⟩ := Option.isSome_iff_exists.mp some
  obtain ⟨shared, shape⟩ := leaves_share_bodies_and_splits_part built
  have listing : (build b).map (fun t => t.leaves.map fun c => (c.1, c.2.listed)) =
      Option.some [(1, [0, 14]), (1, List.range' 1 13)] := by decide +kernel
  rw [built, Option.map_some, Option.some.injEq] at listing
  refine ⟨tree, built, listing, shared, ?_⟩
  intro depth u member crowded
  obtain ⟨among, closed⟩ := List.mem_filter.mp member
  exact ((shape depth u among).2.1 closed).2 crowded

end CodeAtlas.Layout.Quadtree
