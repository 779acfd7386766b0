import CodeAtlas.Proofs.ExactNumbers
import CodeAtlas.Proofs.GrownTrees
import Mathlib.Tactic.IntervalCases

/-!
Where the bodies of a cell are, in exact numbers: within its square. The square around all points
holds each of them, and a split puts each into a quarter that holds it again. So the gap between two
cells is no larger than the distance between a body of one and a body of the other.
-/
namespace CodeAtlas.Layout

namespace Bounds

def ofReal (r : Bounds ℝ) : Bounds EReal := ⟨r.center.ofReal, r.half⟩

def Inside (r : Bounds ℝ) (p : Vec ℝ) : Prop :=
  |p.x - r.center.x| ≤ r.half ∧ |p.y - r.center.y| ≤ r.half

noncomputable def shift (r : Bounds ℝ) (more : Bool) : ℝ :=
  let half := r.half * Scalar.realDecimal 5 1
  if more then half else -half

noncomputable def realQuarter (r : Bounds ℝ) (right below : Bool) : Bounds ℝ :=
  ⟨⟨r.center.x + r.shift right, r.center.y + r.shift below⟩,
    r.half * Scalar.realDecimal 5 1⟩

theorem quarter_ofReal (r : Bounds ℝ) (right below : Bool) :
    r.ofReal.quarter right below = (r.realQuarter right below).ofReal := by
  have shifted (more : Bool) : (if more then (r.half : EReal) * Scalar.decimal 5 1
      else -((r.half : EReal) * Scalar.decimal 5 1)) = (r.shift more : ℝ) := by
    cases more <;> rfl
  simp only [quarter, ofReal, shifted]
  rfl

theorem quarterOf_ofReal (r : Bounds ℝ) (p : Vec ℝ) : r.ofReal.quarterOf p.ofReal =
    (decide (r.center.x ≤ p.x), decide (r.center.y ≤ p.y)) := by
  simp only [quarterOf, ofReal, Vec.ofReal, Scalar.le, EReal.coe_le_coe_iff]

theorem quarter_inside {r : Bounds ℝ} {q : Bool × Bool} {p : Vec ℝ} (inside : r.Inside p)
    (there : r.ofReal.quarterOf p.ofReal = q) : (r.realQuarter q.1 q.2).Inside p := by
  obtain ⟨right, below⟩ := q
  rw [quarterOf_ofReal] at there
  obtain ⟨sideX, sideY⟩ := Prod.mk.inj there
  obtain ⟨acrossX, acrossY⟩ := inside
  rw [abs_le] at acrossX acrossY
  -- a coordinate lies on the side of the middle to which the quarter is moved
  have moved {c x : ℝ} {more : Bool} (low : -r.half ≤ x - c) (high : x - c ≤ r.half)
      (side : decide (c ≤ x) = more) :
      |x - (c + r.shift more)| ≤ r.half * Scalar.realDecimal 5 1 := by
    rw [Scalar.realDecimal_half]
    cases more with
    | true =>
      have : c ≤ x := by simpa using side
      simp only [shift, Scalar.realDecimal_half, ↓reduceIte, abs_le]
      constructor <;> linarith
    | false =>
      have : x < c := by simpa using side
      simp only [shift, Scalar.realDecimal_half, Bool.false_eq_true, ↓reduceIte, abs_le]
      constructor <;> linarith
  exact ⟨moved acrossX.1 acrossX.2 sideX, moved acrossY.1 acrossY.2 sideY⟩

/-! ### The gap -/

noncomputable def realGapSq (a b : Bounds ℝ) : ℝ :=
  let along (c d : ℝ) : ℝ := max (|c - d| - (a.half + b.half)) 0
  along a.center.x b.center.x * along a.center.x b.center.x +
    along a.center.y b.center.y * along a.center.y b.center.y

theorem gapSq_ofReal (a b : Bounds ℝ) : a.ofReal.gapSq b.ofReal = (a.realGapSq b : ℝ) := by
  have square : Vec.square (((a.half : ℝ) : EReal) + ((b.half : ℝ) : EReal)) =
      Vec.ofReal ⟨a.half + b.half, a.half + b.half⟩ := rfl
  simp only [gapSq, ofReal, Vec.sub_ofReal, Vec.abs_ofReal, square, Vec.zero_ofReal,
    Vec.max_ofReal, Vec.lengthSq_ofReal, realGapSq]

theorem realGapSq_le {a b : Bounds ℝ} {p q : Vec ℝ} (first : a.Inside p) (second : b.Inside q) :
    a.realGapSq b ≤ (p.x - q.x) ^ 2 + (p.y - q.y) ^ 2 := by
  -- along each axis the gap is no larger than the distance of the two points
  have short {c d x y : ℝ} (inA : |x - c| ≤ a.half) (inB : |y - d| ≤ b.half) :
      max (|c - d| - (a.half + b.half)) 0 * max (|c - d| - (a.half + b.half)) 0 ≤
        (x - y) ^ 2 := by
    have apart : max (|c - d| - (a.half + b.half)) 0 ≤ |x - y| := by
      refine max_le ?_ (abs_nonneg _)
      have triangle : |c - d| ≤ |c - x| + |x - y| + |y - d| :=
        (abs_sub_le c y d).trans (by linarith [abs_sub_le c x y])
      rw [abs_sub_comm c x] at triangle
      linarith
    rw [← sq, ← sq_abs (x - y)]
    exact pow_le_pow_left₀ (le_max_right _ _) apart 2
  exact add_le_add (short first.1 second.1) (short first.2 second.2)

/-! ### The square around all points -/

/-- No point is below the lower corner or above the upper one, and no corner is farther out than it
has to be. -/
structure Corners (points : List (Vec ℝ)) (lo hi : Vec ℝ) : Prop where
  low : ∀ p ∈ points, lo.x ≤ p.x ∧ lo.y ≤ p.y
  high : ∀ p ∈ points, p.x ≤ hi.x ∧ p.y ≤ hi.y
  lowest : ∀ m : Vec ℝ, (∀ p ∈ points, m.x ≤ p.x ∧ m.y ≤ p.y) → m.x ≤ lo.x ∧ m.y ≤ lo.y
  highest : ∀ m : Vec ℝ, (∀ p ∈ points, p.x ≤ m.x ∧ p.y ≤ m.y) → hi.x ≤ m.x ∧ hi.y ≤ m.y

theorem corners_ofReal (first : Vec ℝ) (rest : List (Vec ℝ)) : ∃ lo hi : Vec ℝ,
    ((first :: rest).map Vec.ofReal).foldl Vec.min (Vec.square Scalar.infinity) = lo.ofReal ∧
      ((first :: rest).map Vec.ofReal).foldl Vec.max (Vec.square (-Scalar.infinity)) = hi.ofReal ∧
      Corners (first :: rest) lo hi := by
  have startLow : (Vec.square Scalar.infinity).min first.ofReal = first.ofReal := by
    simp [Vec.min, Vec.square, Vec.ofReal, Scalar.min_exact, Scalar.infinity]
  have startHigh : (Vec.square (-Scalar.infinity)).max first.ofReal = first.ofReal := by
    simp [Vec.max, Vec.square, Vec.ofReal, Scalar.max_exact, Scalar.infinity]
  obtain ⟨lo, low, below, lowest⟩ := foldl_embedded Vec.ofReal Vec.min
    (fun u v => u.x ≤ v.x ∧ u.y ≤ v.y)
    (fun v w => ⟨⟨min v.x w.x, min v.y w.y⟩,
      by simp only [Vec.min, Vec.ofReal, Scalar.min_exact, EReal.coe_strictMono.monotone.map_min],
      ⟨min_le_left _ _, min_le_left _ _⟩, ⟨min_le_right _ _, min_le_right _ _⟩,
      fun _ mv mw => ⟨le_min mv.1 mw.1, le_min mv.2 mw.2⟩⟩)
    (fun v => ⟨le_rfl, le_rfl⟩) (fun u v w uv vw => ⟨uv.1.trans vw.1, uv.2.trans vw.2⟩) first rest
  obtain ⟨hi, high, above, highest⟩ := foldl_embedded Vec.ofReal Vec.max
    (fun u v => v.x ≤ u.x ∧ v.y ≤ u.y)
    (fun v w => ⟨_, Vec.max_ofReal v w,
      ⟨le_max_left _ _, le_max_left _ _⟩, ⟨le_max_right _ _, le_max_right _ _⟩,
      fun _ mv mw => ⟨max_le mv.1 mw.1, max_le mv.2 mw.2⟩⟩)
    (fun v => ⟨le_rfl, le_rfl⟩) (fun u v w uv vw => ⟨vw.1.trans uv.1, vw.2.trans uv.2⟩) first rest
  refine ⟨lo, hi, ?_, ?_, below, above, lowest, highest⟩
  · rw [List.map_cons, List.foldl_cons, startLow, low]
  · rw [List.map_cons, List.foldl_cons, startHigh, high]

noncomputable def between (lo hi : Vec ℝ) : Bounds ℝ :=
  let half := Scalar.realDecimal 5 1
  ⟨⟨(lo.x + hi.x) * half, (lo.y + hi.y) * half⟩,
    max (max (hi.x - lo.x) 1) (max (hi.y - lo.y) 1) * half + 1⟩

theorem between_inside {lo hi p : Vec ℝ} (low : lo.x ≤ p.x ∧ lo.y ≤ p.y)
    (high : p.x ≤ hi.x ∧ p.y ≤ hi.y) : (between lo hi).Inside p := by
  have wide : hi.x - lo.x ≤ max (max (hi.x - lo.x) 1) (max (hi.y - lo.y) 1) :=
    (le_max_left _ _).trans (le_max_left _ _)
  have tall : hi.y - lo.y ≤ max (max (hi.x - lo.x) 1) (max (hi.y - lo.y) 1) :=
    (le_max_left _ _).trans (le_max_right _ _)
  simp only [Inside, abs_le, between, Scalar.realDecimal_half]
  refine ⟨⟨?_, ?_⟩, ?_, ?_⟩ <;> linarith

theorem around_ofReal {points : Array (Vec ℝ)} (any : 0 < points.size) : ∃ lo hi : Vec ℝ,
    around (points.map Vec.ofReal) = some (between lo hi).ofReal ∧
      Corners points.toList lo hi := by
  obtain ⟨first, rest, listed⟩ : ∃ first rest, points.toList = first :: rest :=
    List.exists_cons_of_ne_nil (by rw [← List.length_pos_iff]; simpa using any)
  obtain ⟨lo, hi, low, high, corners⟩ := corners_ofReal first rest
  refine ⟨lo, hi, ?_, listed ▸ corners⟩
  have span : (hi.ofReal - lo.ofReal).max (Vec.square Scalar.one) =
      Vec.ofReal ⟨max (hi.x - lo.x) 1, max (hi.y - lo.y) 1⟩ := by
    rw [Vec.square, Scalar.one_exact]
    exact Vec.max_ofReal ⟨hi.x - lo.x, hi.y - lo.y⟩ ⟨1, 1⟩
  unfold around
  rw [← Array.foldl_toList, ← Array.foldl_toList, Array.toList_map, listed, low, high]
  simp only [span]
  simp only [Vec.ofReal, Scalar.decimal_exact, Scalar.one_exact, Scalar.max_exact,
    Scalar.isFinite_exact, Bool.and_self, ↓reduceIte, ← EReal.coe_strictMono.monotone.map_max]
  rfl

theorem around_eq {points : Array (Vec ℝ)} (lo hi : Vec ℝ) (least : lo ∈ points)
    (greatest : hi ∈ points) (low : ∀ p ∈ points, lo.x ≤ p.x ∧ lo.y ≤ p.y)
    (high : ∀ p ∈ points, p.x ≤ hi.x ∧ p.y ≤ hi.y) :
    around (points.map Vec.ofReal) = some (between lo hi).ofReal := by
  have any : 0 < points.size := Array.size_pos_of_mem least
  obtain ⟨lo', hi', around, corners⟩ := around_ofReal any
  have first : lo' = lo := by
    obtain ⟨x, y⟩ := corners.low lo (by simpa using least)
    obtain ⟨x', y'⟩ := corners.lowest lo (by simpa using low)
    exact Vec.ext (le_antisymm x x') (le_antisymm y y')
  have last : hi' = hi := by
    obtain ⟨x, y⟩ := corners.high hi (by simpa using greatest)
    obtain ⟨x', y'⟩ := corners.highest hi (by simpa using high)
    exact Vec.ext (le_antisymm x' x) (le_antisymm y' y)
  rw [around, first, last]

end Bounds

/-! ### The cells of a tree -/

def Bodies.ofReal (points : Array (Vec ℝ)) (weights : Array ℝ) : Bodies EReal :=
  ⟨points.map Vec.ofReal, weights.map Real.toEReal⟩

def pointAt (points : Array (Vec ℝ)) (i : Nat) : Vec ℝ := points.getD i ⟨0, 0⟩

section

variable {points : Array (Vec ℝ)} {weights : Array ℝ}

variable (points weights) in
theorem position_ofReal (i : Nat) :
    (Bodies.ofReal points weights).position i = (pointAt points i).ofReal := by
  unfold Bodies.position Bodies.ofReal pointAt
  cases there : points[i]? <;> simp [there, Vec.zero_ofReal]

namespace Quadtree

variable (weights) in
theorem build_ofReal (any : 0 < points.size) :
    ∃ tree, build (Bodies.ofReal points weights) = some tree := by
  obtain ⟨lo, hi, around, _⟩ := Bounds.around_ofReal any
  exact ⟨_, congrArg (Option.map _) around⟩

theorem members_ofReal {tree : Quadtree EReal}
    (built : build (Bodies.ofReal points weights) = some tree) :
    tree.members.Perm (List.range points.size) := by
  simpa [Bodies.ofReal] using build_perm built

theorem build_empty : build (Bodies.ofReal #[] weights) = none := by
  simp [build, Bodies.ofReal, Bounds.around, Vec.square, Scalar.isFinite, Scalar.infinity]

/-- The square of a cell is real and holds all its bodies, of which there are some. -/
def Encloses (points : Array (Vec ℝ)) (square : Bounds EReal) (bodies : List Nat) : Prop :=
  ∃ r : Bounds ℝ, square = r.ofReal ∧ bodies ≠ [] ∧ ∀ i ∈ bodies, r.Inside (pointAt points i)

theorem split_encloses {square : Bounds EReal} {bodies : List Nat}
    (encloses : Encloses points square bodies) {part : Bounds EReal × List Nat}
    (member : part ∈ buckets (Bodies.ofReal points weights) square bodies) :
    Encloses points part.1 part.2 := by
  obtain ⟨r, rfl, _, hold⟩ := encloses
  obtain ⟨q, square, inQuarter, fewer, some⟩ := mem_buckets member
  refine ⟨r.realQuarter q.1 q.2, square.trans (r.quarter_ofReal q.1 q.2), some, ?_⟩
  intro i there
  refine Bounds.quarter_inside (hold i (fewer there)) ?_
  rw [← position_ofReal points weights]
  exact inQuarter i there

theorem build_encloses {tree : Quadtree EReal}
    (built : build (Bodies.ofReal points weights) = some tree) {t : Quadtree EReal}
    (has : tree.Has t) : ∃ left square bodies,
      t = grow (Bodies.ofReal points weights) left square bodies ∧
        Encloses points square bodies := by
  have any : 0 < points.size := by
    by_contra none
    obtain rfl : points = #[] := Array.size_eq_zero_iff.mp (by omega)
    rw [build_empty] at built
    cases built
  obtain ⟨lo, hi, around, corners⟩ := Bounds.around_ofReal any
  have start : Encloses points (Bounds.between lo hi).ofReal (List.range points.size) := by
    refine ⟨Bounds.between lo hi, rfl, by simpa using Nat.ne_of_gt any, ?_⟩
    intro i there
    have number : i < points.size := List.mem_range.mp there
    have listed : points[i] ∈ points.toList := by simp
    simpa [pointAt, number] using
      Bounds.between_inside (corners.low _ listed) (corners.high _ listed)
  have grown : tree = grow (Bodies.ofReal points weights) maxDepth (Bounds.between lo hi).ofReal
      (List.range points.size) := by
    rw [build, Bodies.ofReal, around, Option.map_some, Option.some.injEq, Array.size_map] at built
    exact built.symm
  rw [grown] at has
  exact grow_has (P := Encloses points) (fun _ _ held _ part => split_encloses held part) start has

theorem cell_encloses {tree : Quadtree EReal}
    (built : build (Bodies.ofReal points weights) = some tree) {t : Quadtree EReal}
    (has : tree.Has t) : ∃ r : Bounds ℝ, t.bounds = r.ofReal ∧
      ∀ i ∈ t.members, r.Inside (pointAt points i) := by
  obtain ⟨left, square, bodies, rfl, r, rfl, _, hold⟩ := build_encloses built has
  refine ⟨r, by rw [bounds, grow_cell, Bodies.cell], ?_⟩
  intro i member
  exact hold i ((grow_members_perm _ left _ bodies).mem_iff.mp member)

/-! ### A tree with two splits -/

/-- Seven bodies in one place, six in another, and one far from both. -/
noncomputable def outpost : Array (Vec ℝ) :=
  let place (x : ℝ) : Vec ℝ := ⟨x, 0⟩
  (List.replicate 7 (place 0) ++ (List.replicate 6 (place 40) ++ [place 100])).toArray

theorem outpost_near {i : Nat} (first : i ∈ List.range 7) : pointAt outpost i = ⟨0, 0⟩ := by
  have number := List.mem_range.mp first
  interval_cases i <;> rfl

theorem outpost_middle {i : Nat} (second : i ∈ List.range' 7 6) :
    pointAt outpost i = ⟨40, 0⟩ := by
  obtain ⟨low, high⟩ := List.mem_range'_1.mp second
  interval_cases i <;> rfl

theorem outpost_far : pointAt outpost 13 = ⟨100, 0⟩ := rfl

noncomputable def outpostSquare : Bounds ℝ := ⟨⟨50, 0⟩, 51⟩

noncomputable def outpostWest : Bounds ℝ := outpostSquare.realQuarter false true

theorem outpostWest_eq : outpostWest = ⟨⟨49 / 2, 51 / 2⟩, 51 / 2⟩ := by
  norm_num [outpostWest, outpostSquare, Bounds.realQuarter, Bounds.shift, Scalar.realDecimal_half]

noncomputable def outpostCrowd (b : Bodies EReal) : Quadtree EReal :=
  .fork (b.cell outpostWest.ofReal (List.range 13)) []
    [.leaf (b.cell (outpostWest.realQuarter false false).ofReal (List.range 7)) (List.range 7),
      .leaf (b.cell (outpostWest.realQuarter true false).ofReal (List.range' 7 6)) (List.range' 7 6)]

noncomputable def outpostTree (b : Bodies EReal) : Quadtree EReal :=
  .fork (b.cell outpostSquare.ofReal (List.range 14)) []
    [outpostCrowd b, .leaf (b.cell (outpostSquare.realQuarter true true).ofReal [13]) [13]]

theorem build_outpost (weights : Array ℝ) :
    build (Bodies.ofReal outpost weights) = some (outpostTree (Bodies.ofReal outpost weights)) := by
  have around : Bounds.around (outpost.map Vec.ofReal) = some outpostSquare.ofReal := by
    rw [Bounds.around_eq ⟨0, 0⟩ ⟨100, 0⟩ (by simp [outpost]) (by simp [outpost])
      (by simp [outpost]) (by norm_num [outpost])]
    norm_num [Bounds.between, outpostSquare, Scalar.realDecimal_half]
  let b := Bodies.ofReal outpost weights
  have west : ∀ i ∈ List.range 7 ++ List.range' 7 6,
      outpostSquare.ofReal.quarterOf (b.position i) = (false, true) := by
    intro i member
    rw [position_ofReal, Bounds.quarterOf_ofReal]
    rcases List.mem_append.mp member with near | middle
    · norm_num [outpost_near near, outpostSquare]
    · norm_num [outpost_middle middle, outpostSquare]
  have east : ∀ i ∈ [13], outpostSquare.ofReal.quarterOf (b.position i) = (true, true) := by
    intro i member
    rw [position_ofReal, Bounds.quarterOf_ofReal, List.mem_singleton.mp member, outpost_far]
    norm_num [outpostSquare]
  have near : ∀ i ∈ List.range 7,
      outpostWest.ofReal.quarterOf (b.position i) = (false, false) := by
    intro i member
    rw [position_ofReal, Bounds.quarterOf_ofReal, outpost_near member, outpostWest_eq]
    norm_num
  have middle : ∀ i ∈ List.range' 7 6,
      outpostWest.ofReal.quarterOf (b.position i) = (true, false) := by
    intro i member
    rw [position_ofReal, Bounds.quarterOf_ofReal, outpost_middle member, outpostWest_eq]
    norm_num
  have leaf {splits : Nat} {square : Bounds EReal} (bodies : List Nat)
      (few : bodies.length ≤ leafCapacity) :
      grow b splits square bodies = .leaf (b.cell square bodies) bodies := grow_few few
  have first := grow_of_two (by decide) west east (by decide) (by decide) (by decide) 9
  have second := grow_of_two (by decide) near middle (by decide) (by decide) (by decide) 8
  rw [Bounds.quarter_ofReal, Bounds.quarter_ofReal, leaf [13] (by decide)] at first
  rw [Bounds.quarter_ofReal, Bounds.quarter_ofReal, leaf (List.range 7) (by decide),
    leaf (List.range' 7 6) (by decide)] at second
  rw [build, show (Bodies.ofReal outpost weights).positions = outpost.map Vec.ofReal from rfl,
    around, Option.map_some, Array.size_map]
  rw [← outpostWest, second] at first
  exact congrArg some first

end Quadtree

end

end CodeAtlas.Layout
