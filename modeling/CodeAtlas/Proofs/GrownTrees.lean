import CodeAtlas.Proofs.TreeMembers
import Mathlib.Data.List.Perm.Basic

/-!
How a quadtree grows. A split deals the bodies out to the quarters, each to one of them, so the
leaves hold the bodies that were given, each once. What is so for the square and the bodies of the
whole tree, and is handed on by every split, is so for each cell.
-/
namespace CodeAtlas.Layout.Quadtree

variable {α : Type}

/-- The cells of a tree: it itself, and those of its children. -/
inductive Has : Quadtree α → Quadtree α → Prop
  | self (t : Quadtree α) : Has t t
  | child {c : Cell α} {is : List Nat} {ts : List (Quadtree α)} {t u : Quadtree α}
      (member : t ∈ ts) (below : Has t u) : Has (.fork c is ts) u

theorem Has.trans {s t u : Quadtree α} (first : s.Has t) (second : t.Has u) : s.Has u := by
  induction first with
  | self => exact second
  | child member _ ih => exact .child member (ih second)

theorem has_child {c : Cell α} {is : List Nat} {ts : List (Quadtree α)} {t : Quadtree α}
    (member : t ∈ ts) : (Quadtree.fork c is ts).Has t :=
  .child member (.self t)

variable [Scalar α]

/-! ### A split -/

theorem mem_buckets {b : Bodies α} {bounds : Bounds α} {indices : List Nat}
    {part : Bounds α × List Nat} (member : part ∈ buckets b bounds indices) :
    ∃ q : Bool × Bool, part.1 = bounds.quarter q.1 q.2 ∧
      (∀ i ∈ part.2, bounds.quarterOf (b.position i) = q) ∧ part.2 ⊆ indices ∧ part.2 ≠ [] := by
  simp only [buckets, List.mem_filterMap, Option.ite_none_left_eq_some, Option.some.injEq]
    at member
  obtain ⟨q, _, some, eq⟩ := member
  subst eq
  refine ⟨q, rfl, ?_, List.filter_sublist.subset, by simpa using some⟩
  intro i inside
  simpa using (List.mem_filter.mp inside).2

theorem buckets_perm (b : Bodies α) (bounds : Bounds α) (indices : List Nat) :
    ((buckets b bounds indices).flatMap (·.2)).Perm indices := by
  have dealt : (buckets b bounds indices).flatMap (·.2) =
      quarters.flatMap fun q => indices.filter fun i => bounds.quarterOf (b.position i) = q := by
    unfold buckets
    induction quarters with
    | nil => rfl
    | cons q rest ih =>
      rw [List.filterMap_cons, List.flatMap_cons, ← ih]
      by_cases none : (indices.filter fun i => bounds.quarterOf (b.position i) = q) = []
      · simp [none]
      · simp [none, List.isEmpty_iff]
  rw [dealt, List.perm_iff_count]
  intro i
  -- of the four quarters just the one that the body is in counts it
  rcases here : bounds.quarterOf (b.position i) with ⟨right, below⟩
  have other {q : Bool × Bool} (different : q ≠ (right, below)) :
      (indices.filter fun i => bounds.quarterOf (b.position i) = q).count i = 0 := by
    simp [List.count_eq_zero, here, different.symm]
  have own : (indices.filter fun i => bounds.quarterOf (b.position i) = (right, below)).count i =
      indices.count i := List.count_filter (by simp [here])
  cases right <;> cases below <;>
    simp only [quarters, List.flatMap_cons, List.flatMap_nil, List.append_nil, List.count_append,
      own] <;> simp [other]

theorem buckets_of_two {b : Bodies α} {bounds : Bounds α} {left right : List Nat}
    {p q : Bool × Bool} (order : [p, q].Sublist quarters) (someLeft : left ≠ [])
    (someRight : right ≠ []) (inLeft : ∀ i ∈ left, bounds.quarterOf (b.position i) = p)
    (inRight : ∀ i ∈ right, bounds.quarterOf (b.position i) = q) :
    buckets b bounds (left ++ right) =
      [(bounds.quarter p.1 p.2, left), (bounds.quarter q.1 q.2, right)] := by
  have bucket (x : Bool × Bool) :
      (left ++ right).filter (fun i => bounds.quarterOf (b.position i) = x) =
        (if p = x then left else []) ++ if q = x then right else [] := by
    have side {is : List Nat} {y : Bool × Bool}
        (inside : ∀ i ∈ is, bounds.quarterOf (b.position i) = y) :
        is.filter (fun i => bounds.quarterOf (b.position i) = x) = if y = x then is else [] := by
      split
      · exact List.filter_eq_self.mpr fun i member => decide_eq_true ((inside i member).trans ‹_›)
      · refine List.filter_eq_nil_iff.mpr fun i member => ?_
        simpa [inside i member] using ‹_›
    rw [List.filter_append, side inLeft, side inRight]
  simp only [buckets, bucket]
  clear bucket inLeft inRight
  obtain ⟨a, c⟩ := p
  obtain ⟨d, e⟩ := q
  cases a <;> cases c <;> cases d <;> cases e <;>
    first
    | exact absurd order (by decide)
    | simp [quarters, someLeft, someRight]

theorem grow_cases (b : Bodies α) (splits : Nat) (bounds : Bounds α) (indices : List Nat) :
    (grow b splits bounds indices = .leaf (b.cell bounds indices) indices ∧
      (splits = 0 ∨ indices.length ≤ leafCapacity ∨ (buckets b bounds indices).length ≤ 1)) ∨
    ∃ fewer, splits = fewer + 1 ∧ leafCapacity < indices.length ∧
      1 < (buckets b bounds indices).length ∧
      grow b splits bounds indices = .fork (b.cell bounds indices) []
        ((buckets b bounds indices).map fun part => grow b fewer part.1 part.2) := by
  cases splits with
  | zero => exact Or.inl ⟨rfl, Or.inl rfl⟩
  | succ fewer =>
    by_cases few : indices.length ≤ leafCapacity
    · exact Or.inl ⟨by simp [grow, few], Or.inr (Or.inl few)⟩
    · by_cases together : (buckets b bounds indices).length ≤ 1
      · exact Or.inl ⟨by simp [grow, few, together], Or.inr (Or.inr together)⟩
      · exact Or.inr ⟨fewer, rfl, by omega, by omega, by simp [grow, few, together, clear]⟩

theorem grow_few {b : Bodies α} {splits : Nat} {bounds : Bounds α} {indices : List Nat}
    (few : indices.length ≤ leafCapacity) :
    grow b splits bounds indices = .leaf (b.cell bounds indices) indices := by
  rcases grow_cases b splits bounds indices with ⟨leaf, _⟩ | ⟨_, _, many, _⟩
  · exact leaf
  · omega

theorem grow_of_two {b : Bodies α} {bounds : Bounds α} {left right : List Nat}
    {p q : Bool × Bool} (order : [p, q].Sublist quarters)
    (inLeft : ∀ i ∈ left, bounds.quarterOf (b.position i) = p)
    (inRight : ∀ i ∈ right, bounds.quarterOf (b.position i) = q) (someLeft : left ≠ [])
    (someRight : right ≠ []) (many : leafCapacity < (left ++ right).length) (splits : Nat) :
    grow b (splits + 1) bounds (left ++ right) = .fork (b.cell bounds (left ++ right)) []
      [grow b splits (bounds.quarter p.1 p.2) left,
        grow b splits (bounds.quarter q.1 q.2) right] := by
  have parts := buckets_of_two order someLeft someRight inLeft inRight
  rcases grow_cases b (splits + 1) bounds (left ++ right) with
    ⟨_, none | few | together⟩ | ⟨fewer, eq, _, _, fork⟩
  · omega
  · omega
  · rw [parts, List.length_cons, List.length_cons] at together
    omega
  · obtain rfl : splits = fewer := by omega
    rw [fork, parts]
    rfl

/-! ### The whole tree -/

theorem grow_cell (b : Bodies α) (splits : Nat) (bounds : Bounds α) (indices : List Nat) :
    (grow b splits bounds indices).cell = b.cell bounds indices := by
  rcases grow_cases b splits bounds indices with ⟨leaf, _⟩ | ⟨fewer, _, _, _, fork⟩
  · rw [leaf, cell]
  · rw [fork, cell]

omit [Scalar α] in
theorem membersAll_eq (ts : List (Quadtree α)) : membersAll ts = ts.flatMap members := by
  induction ts with
  | nil => rfl
  | cons t rest ih => rw [membersAll, List.flatMap_cons, ih]

theorem grow_members_perm (b : Bodies α) (splits : Nat) (bounds : Bounds α)
    (indices : List Nat) : (grow b splits bounds indices).members.Perm indices := by
  induction splits generalizing bounds indices with
  | zero => exact List.Perm.refl _
  | succ fewer ih =>
    rcases grow_cases b (fewer + 1) bounds indices with ⟨leaf, _⟩ | ⟨same, eq, _, _, fork⟩
    · rw [leaf, members]
    · obtain rfl : fewer = same := by omega
      rw [fork, members, membersAll_eq, List.flatMap_map]
      exact (List.Perm.flatMap_left _ fun part _ => ih part.1 part.2).trans
        (buckets_perm b bounds indices)

/-- What every split hands on to its parts is so for the square and the bodies of each cell. -/
theorem grow_has {b : Bodies α} {P : Bounds α → List Nat → Prop}
    (handed : ∀ bounds indices, P bounds indices →
      ∀ part ∈ buckets b bounds indices, P part.1 part.2)
    {splits : Nat} {bounds : Bounds α} {indices : List Nat} (start : P bounds indices)
    {t : Quadtree α} (has : (grow b splits bounds indices).Has t) :
    ∃ left square bodies, t = grow b left square bodies ∧ P square bodies := by
  induction splits generalizing bounds indices with
  | zero =>
    cases has with
    | self => exact ⟨0, bounds, indices, rfl, start⟩
  | succ fewer ih =>
    rcases grow_cases b (fewer + 1) bounds indices with ⟨leaf, _⟩ | ⟨same, eq, _, _, fork⟩
    · rw [leaf] at has
      cases has with
      | self => exact ⟨fewer + 1, bounds, indices, leaf.symm, start⟩
    · obtain rfl : fewer = same := by omega
      rw [fork] at has
      cases has with
      | self => exact ⟨fewer + 1, bounds, indices, fork.symm, start⟩
      | child member below =>
        obtain ⟨part, among, rfl⟩ := List.mem_map.mp member
        exact ih (handed bounds indices start part among) below

theorem build_perm {b : Bodies α} {t : Quadtree α} (built : build b = some t) :
    t.members.Perm (List.range b.positions.size) := by
  obtain ⟨bounds, _, rfl⟩ := Option.map_eq_some_iff.mp built
  exact grow_members_perm b _ bounds _

end CodeAtlas.Layout.Quadtree
