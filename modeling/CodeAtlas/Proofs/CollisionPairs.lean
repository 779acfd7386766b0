import CodeAtlas.Layout.Physics
import CodeAtlas.Proofs.CellGeometry
import CodeAtlas.Proofs.PairTraversal

/-!
Which circles are pushed apart, in exact numbers. Cells are passed over when the gap between them is
larger than two of the largest circles can bridge. Bodies are no closer than their cells, so no two
circles that overlap are lost, and the search through the tree pushes the same pairs as a look at
every pair would.
-/
namespace CodeAtlas.Layout

namespace Collision

variable {α : Type} [Scalar α]

def largest (radii : Array α) : α := radii.foldl Scalar.max Scalar.zero

def reaching (strength padding maxRadius : α) : Collision α :=
  let reach := maxRadius * Scalar.ofNat 2 + padding
  ⟨strength, padding, reach * reach⟩

theorem collisionForce_eq (t : Tuning α) (f : Field α) :
    t.collisionForce f.maxRadius =
      reaching (t.collisionForce f.maxRadius).strength (Scalar.ofNat 4) (largest f.radii) := rfl

/-- The pairs that are pushed: those that overlap, of those that the tree does not rule out. -/
def pushed (c : Collision α) (b : Bodies α) (radii : Array α) : List (Nat × Nat) :=
  match Quadtree.build b with
  | some tree => (tree.within c.apart).filter fun p => c.overlaps b radii p.1 p.2
  | none => []

def pushPair (c : Collision α) (b : Bodies α) (radii : Array α) (forces : Array (Vec α))
    (pair : Nat × Nat) : Array (Vec α) :=
  let p := c.push b radii pair.1 pair.2
  (forces.modify pair.1 (· + p)).modify pair.2 (· - p)

theorem partAll_eq {c : Collision α} {b : Bodies α} {radii : Array α} {tree : Quadtree α}
    (built : Quadtree.build b = some tree) (forces : Array (Vec α)) :
    c.partAll b radii tree forces = (c.pushed b radii).foldl (c.pushPair b radii) forces := by
  simp only [pushed, built, List.foldl_filter]
  rfl

end Collision

/-! ### Circles with real places and sizes -/

section

variable {points : Array (Vec ℝ)} {weights radii : Array ℝ}

theorem radius_ofReal (radii : Array ℝ) (i : Nat) :
    (radii.map Real.toEReal).getD i Scalar.zero = (radii.getD i 0 : ℝ) := by
  cases there : radii[i]? <;> simp [there, Scalar.zero_exact]

theorem largest_ofReal (radii : Array ℝ) : ∃ most : ℝ,
    Collision.largest (radii.map Real.toEReal) = most ∧ (∀ i, radii.getD i 0 ≤ most) ∧
      ∀ bound, 0 ≤ bound → (∀ r ∈ radii, r ≤ bound) → most ≤ bound := by
  obtain ⟨most, folded, above, least⟩ := foldl_embedded Real.toEReal Scalar.max (fun u v => v ≤ u)
    (fun v w => ⟨max v w, by rw [Scalar.max_exact, EReal.coe_strictMono.monotone.map_max],
      le_max_left v w, le_max_right v w, fun _ => max_le⟩)
    (fun v => le_rfl) (fun u v w uv vw => vw.trans uv) 0 radii.toList
  refine ⟨most, ?_, ?_, ?_⟩
  · rw [Collision.largest, ← Array.foldl_toList, Array.toList_map, Scalar.zero_exact, folded]
  · intro i
    rcases there : radii[i]? with _ | r
    · simpa [there] using above 0 List.mem_cons_self
    · simpa [there] using above r (List.mem_cons_of_mem 0 (Array.mem_of_getElem? there).val)
  · intro bound start all
    exact least bound (by simpa [start] using all)

noncomputable def distance (points : Array (Vec ℝ)) (i j : Nat) : ℝ :=
  √(((pointAt points i).x - (pointAt points j).x) ^ 2 +
    ((pointAt points i).y - (pointAt points j).y) ^ 2)

theorem distance_comm (points : Array (Vec ℝ)) (i j : Nat) :
    distance points i j = distance points j i := by
  rw [distance, sub_sq_comm (pointAt points i).x, sub_sq_comm (pointAt points i).y, distance]

def Overlap (points : Array (Vec ℝ)) (radii : Array ℝ) (padding : ℝ) (i j : Nat) : Prop :=
  distance points i j < radii.getD i 0 + radii.getD j 0 + padding

theorem overlap_comm {padding : ℝ} {i j : Nat} :
    Overlap points radii padding i j ↔ Overlap points radii padding j i := by
  rw [Overlap, Overlap, distance_comm, add_comm (radii.getD i 0)]

theorem overlaps_ofReal {c : Collision EReal} {padding : ℝ} (padded : c.padding = padding)
    (i j : Nat) : c.overlaps (Bodies.ofReal points weights) (radii.map Real.toEReal) i j = true ↔
      Overlap points radii padding i j := by
  have within (a b : ℝ) : (!Scalar.le (a : EReal) (b : EReal)) = true ↔ b < a := by
    simp [Scalar.le]
  simp only [Collision.overlaps, position_ofReal, Vec.sub_ofReal, Vec.length_ofReal, radius_ofReal,
    padded]
  exact within _ _

variable {strength : EReal} {padding : ℝ}

theorem apart_ofReal {most : ℝ} (largest : Collision.largest (radii.map Real.toEReal) = most)
    (a b : Bounds ℝ) :
    (Collision.reaching strength padding (Collision.largest (radii.map Real.toEReal))).apart
      a.ofReal b.ofReal = decide ((most * 2 + padding) * (most * 2 + padding) < a.realGapSq b) := by
  have cut : (Collision.reaching strength padding (Collision.largest
      (radii.map Real.toEReal))).reachSq =
      ((most * 2 + padding) * (most * 2 + padding) : ℝ) := by
    rw [Collision.reaching, largest, Scalar.ofNat_exact]
    rfl
  rw [Collision.apart, cut, Bounds.gapSq_ofReal]
  exact decide_eq_decide.mpr EReal.coe_lt_coe_iff

theorem near_of_overlap {i j : Nat} (overlap : Overlap points radii padding i j) {a b : Bounds ℝ}
    (first : a.Inside (pointAt points i)) (second : b.Inside (pointAt points j)) :
    (Collision.reaching strength padding (Collision.largest (radii.map Real.toEReal))).apart
      a.ofReal b.ofReal = false := by
  obtain ⟨most, largest, atMost, _⟩ := largest_ofReal radii
  have reach : distance points i j < most * 2 + padding := by
    have := atMost i
    have := atMost j
    unfold Overlap at overlap
    linarith
  have bridged : a.realGapSq b ≤ (most * 2 + padding) * (most * 2 + padding) := by
    have root : 0 ≤ distance points i j := Real.sqrt_nonneg _
    rw [← sq, ← Real.sqrt_le_left (root.trans reach.le)]
    exact (Real.sqrt_le_sqrt (Bounds.realGapSq_le first second)).trans reach.le
  rw [apart_ofReal largest]
  exact decide_eq_false (not_lt.mpr bridged)

/-! ### What is pushed -/

open Quadtree

theorem joined_of_overlap {tree : Quadtree EReal}
    (built : build (Bodies.ofReal points weights) = some tree) {i j : Nat}
    (overlap : Overlap points radii padding i j) :
    ¬ tree.Separates
      (Collision.reaching strength padding
        (Collision.largest (radii.map Real.toEReal))).apart i j := by
  rintro ⟨w, leads, holds, passed⟩
  have cell {t : Quadtree EReal} (member : t ∈ w.cells) : ∃ r : Bounds ℝ, t.bounds = r.ofReal ∧
      ∀ i ∈ t.members, r.Inside (pointAt points i) := by
    obtain ⟨s, above, has⟩ := leads.cells t member
    obtain rfl : s = tree := by simpa [Visit.cells] using above
    exact cell_encloses built has
  -- whichever body is below which of the two cells, these are near
  cases w with
  | one t =>
    obtain ⟨r, square, inside⟩ := cell (t := t) (by simp [Visit.cells])
    rw [Visit.isPassedOver, square,
      near_of_overlap overlap (inside i holds.1) (inside j holds.2)] at passed
    cases passed
  | two s t =>
    obtain ⟨q, first, inFirst⟩ := cell (t := s) (by simp [Visit.cells])
    obtain ⟨r, second, inSecond⟩ := cell (t := t) (by simp [Visit.cells])
    rw [Visit.isPassedOver, first, second] at passed
    rcases holds with ⟨here, there⟩ | ⟨there, here⟩
    · rw [near_of_overlap overlap (inFirst i here) (inSecond j there)] at passed
      cases passed
    · rw [near_of_overlap (overlap_comm.mp overlap) (inFirst j there) (inSecond i here)] at passed
      cases passed

theorem mem_filter_overlaps {c : Collision EReal} (padded : c.padding = padding)
    {pairs : List (Nat × Nat)} {i j : Nat} :
    let found := pairs.filter fun p =>
      c.overlaps (Bodies.ofReal points weights) (radii.map Real.toEReal) p.1 p.2
    ((i, j) ∈ found ∨ (j, i) ∈ found) ↔
      ((i, j) ∈ pairs ∨ (j, i) ∈ pairs) ∧ Overlap points radii padding i j := by
  simp only [List.mem_filter, overlaps_ofReal padded, overlap_comm (i := j)]
  exact or_and_right.symm

theorem pushed_met (points : Array (Vec ℝ)) (weights radii : Array ℝ) (strength : EReal)
    (padding : ℝ) :
    let c := Collision.reaching strength padding (Collision.largest (radii.map Real.toEReal))
    let found := c.pushed (Bodies.ofReal points weights) (radii.map Real.toEReal)
    ∃ is : List Nat, is.Nodup ∧ found.Subperm (pairsOf is) ∧
      ∀ i j, ((i, j) ∈ found ∨ (j, i) ∈ found) ↔
        (i ≠ j ∧ i < points.size ∧ j < points.size) ∧ Overlap points radii padding i j := by
  intro c found
  rcases Nat.eq_zero_or_pos points.size with none | any
  · obtain rfl : points = #[] := Array.size_eq_zero_iff.mp none
    have nothing : found = [] := by simp [found, Collision.pushed, build_empty]
    exact ⟨[], List.nodup_nil, nothing ▸ List.nil_subperm, by simp [nothing]⟩
  · obtain ⟨tree, built⟩ := build_ofReal weights any
    have all := members_ofReal built
    have distinct : tree.members.Nodup := all.nodup_iff.mpr List.nodup_range
    have inTree (i : Nat) : i < points.size ↔ i ∈ tree.members :=
      List.mem_range.symm.trans all.mem_iff.symm
    have among : (tree.within c.apart).Subperm (pairsOf tree.members) :=
      Visit.pairs_subperm (v := .one tree)
    have kept : found = (tree.within c.apart).filter fun p =>
        c.overlaps (Bodies.ofReal points weights) (radii.map Real.toEReal) p.1 p.2 := by
      simp only [found, Collision.pushed, built]
    refine ⟨tree.members, distinct, kept ▸ List.filter_sublist.subperm.trans among, ?_⟩
    intro i j
    rw [kept, inTree i, inTree j]
    refine (mem_filter_overlaps (c := c) rfl).trans (and_congr_left fun overlap => ?_)
    constructor
    · exact met_different distinct among
    · rintro ⟨different, first, second⟩
      exact (within_met_iff c.apart distinct first second different).mpr
        (joined_of_overlap built overlap)

/-- With places and sizes of any real numbers: parting all pairs that the tree does not rule out, as
a step of the physics does it with a padding of four, pushes just the pairs of different bodies
whose centers are closer than their radii and the padding together, each once. A look at every pair
finds the same. -/
theorem search_pushes_overlapping_pairs (points : Array (Vec ℝ)) (weights radii : Array ℝ)
    (strength : EReal) (padding : ℝ) :
    let b := Bodies.ofReal points weights
    let sizes := radii.map Real.toEReal
    let c := Collision.reaching strength padding (Collision.largest sizes)
    let every := (pairsOf (List.range points.size)).filter fun p => c.overlaps b sizes p.1 p.2
    (padding = 4 → ∀ (t : Tuning EReal) (f : Field EReal), f.radii = sizes →
      t.collisionForce f.maxRadius =
        { c with strength := (t.collisionForce f.maxRadius).strength }) ∧
    (∀ tree, build b = some tree → ∀ forces,
      c.partAll b sizes tree forces = (c.pushed b sizes).foldl (c.pushPair b sizes) forces) ∧
    (∀ i j, timesMet (c.pushed b sizes) i j ≤ 1 ∧
      (timesMet (c.pushed b sizes) i j = 1 ↔ (i ≠ j ∧ i < points.size ∧ j < points.size) ∧
        distance points i j < radii.getD i 0 + radii.getD j 0 + padding)) ∧
    ∀ i j, timesMet (c.pushed b sizes) i j = timesMet every i j := by
  intro b sizes c every
  obtain ⟨is, distinct, among, met⟩ := pushed_met points weights radii strength padding
  have among : (c.pushed b sizes).Subperm (pairsOf is) := among
  refine ⟨?_, fun tree built forces => Collision.partAll_eq built forces, ?_, ?_⟩
  · rintro rfl t f same
    have four : (Scalar.ofNat 4 : EReal) = (4 : ℝ) := Scalar.ofNat_exact 4
    rw [Collision.collisionForce_eq, same, four]
    rfl
  · intro i j
    rcases timesMet_cases distinct among i j with ⟨found, once⟩ | ⟨missed, never⟩
    · exact ⟨once.le, iff_of_true once ((met i j).mp found)⟩
    · refine ⟨never ▸ Nat.zero_le 1, iff_of_false (by omega) fun overlap => ?_⟩
      exact missed ((met i j).mpr overlap)
  · intro i j
    have range : (List.range points.size).Nodup := List.nodup_range
    refine timesMet_congr distinct among range List.filter_sublist.subperm ((met i j).trans ?_)
    refine (Iff.trans (mem_filter_overlaps (c := c) rfl) (and_congr_left' ?_)).symm
    rw [mem_pairsOf_iff range, List.mem_range, List.mem_range]

/-- Circles in three places, under the push of a step of the physics. Those in one place are pushed.
Those forty apart are in cells that touch and are found not to overlap, and the last is separated
from the first by the gap between their cells. -/
theorem circles_in_row_pushed :
    let b := Bodies.ofReal outpost #[]
    let f : Field EReal := ⟨b, (Array.replicate 14 6).map Real.toEReal, #[], build b⟩
    let c := Tuning.standard.collisionForce f.maxRadius
    timesMet (c.pushed b f.radii) 0 1 = 1 ∧ timesMet (c.pushed b f.radii) 0 7 = 0 ∧
      timesMet (c.pushed b f.radii) 0 13 = 0 ∧
      ∃ tree, build b = some tree ∧ tree.Separates c.apart 0 13 := by
  intro b f c
  obtain ⟨step, _, found, _⟩ := search_pushes_overlapping_pairs outpost #[] (Array.replicate 14 6)
    c.strength 4
  have cut : c = Collision.reaching c.strength (4 : ℝ) (Collision.largest f.radii) :=
    step rfl Tuning.standard f rfl
  have unmet {i j : Nat} (far : (Array.replicate 14 (6 : ℝ)).getD i 0 +
      (Array.replicate 14 6).getD j 0 + 4 ≤ distance outpost i j) :
      timesMet (c.pushed b f.radii) i j = 0 := by
    rw [cut]
    exact Nat.lt_one_iff.mp
      (lt_of_le_of_ne (found i j).1 fun met => not_lt.mpr far ((found i j).2.mp met).2)
  refine ⟨?_, unmet ?_, unmet ?_, outpostTree b, build_outpost #[], ?_⟩
  · rw [cut]
    refine (found 0 1).2.mpr ⟨by simp [outpost], ?_⟩
    rw [distance, outpost_near (by decide), outpost_near (by decide)]
    norm_num
  · rw [distance, outpost_near (by decide), outpost_middle (by decide)]
    exact Real.le_sqrt_of_sq_le (by norm_num)
  · rw [distance, outpost_near (by decide), outpost_far]
    exact Real.le_sqrt_of_sq_le (by norm_num)
  · obtain ⟨most, largest, atMost, least⟩ := largest_ofReal (Array.replicate 14 6)
    obtain rfl : most = 6 :=
      le_antisymm (least 6 (by norm_num) (by simp)) (by simpa using atMost 0)
    -- the search opens the cell of the crowd, and then stands before the first leaf and the last
    refine ⟨.two _ _, .on (.tail _ (.head _)) (.on (.head _) (.here _)), Or.inl ⟨?_, ?_⟩, ?_⟩
    · simp [members]
    · simp [members]
    · rw [cut]
      refine (apart_ofReal largest _ _).trans (decide_eq_true ?_)
      norm_num [Bounds.realGapSq, outpostWest_eq, outpostSquare, Bounds.realQuarter, Bounds.shift,
        Scalar.realDecimal_half]

end

end CodeAtlas.Layout
