import CodeAtlas.Geometry.Vec
import Mathlib.Data.EReal.Inv
import Mathlib.Analysis.SpecialFunctions.Pow.Real

/-!
The arithmetic of positions and forces without rounding: the numbers are the reals, and two
infinities from which the search for the least and the greatest coordinate starts. Points and
vectors with real coordinates stay real under every operation.
-/
namespace CodeAtlas

noncomputable instance : Scalar EReal where
  decimal m places := ((m / 10 ^ places : ℝ) : EReal)
  fraction n := ((n / (2 ^ 32 - 1) : ℝ) : EReal)
  lt a b := decide (a < b)
  le a b := decide (a ≤ b)
  eq a b := decide (a = b)
  isFinite a := decide (a ≠ ⊤ ∧ a ≠ ⊥)
  infinity := ⊤
  sqrt a := (√a.toReal : ℝ)
  hypot a b := (√(a.toReal ^ 2 + b.toReal ^ 2) : ℝ)
  cos a := (Real.cos a.toReal : ℝ)
  sin a := (Real.sin a.toReal : ℝ)
  pow a b := (a.toReal ^ b.toReal : ℝ)

namespace Scalar

noncomputable def realDecimal (m places : ℕ) : ℝ := m / 10 ^ places

theorem decimal_exact (m places : ℕ) : (decimal m places : EReal) = realDecimal m places := rfl

theorem ofNat_exact (n : ℕ) : (ofNat n : EReal) = (n : ℝ) := by
  rw [ofNat, decimal_exact, realDecimal, pow_zero, div_one]

theorem zero_exact : (zero : EReal) = (0 : ℝ) := by
  rw [zero, ofNat_exact, Nat.cast_zero]

theorem one_exact : (one : EReal) = (1 : ℝ) := by
  rw [one, ofNat_exact, Nat.cast_one]

theorem realDecimal_half : realDecimal 5 1 = 1 / 2 := by norm_num [realDecimal]

theorem half_exact : (decimal 5 1 : EReal) = (1 / 2 : ℝ) := by
  rw [decimal_exact, realDecimal_half]

theorem isFinite_exact (a : ℝ) : isFinite (a : EReal) = true := by
  simp [isFinite]

theorem min_exact (a b : EReal) : Scalar.min a b = Min.min a b := by
  unfold Scalar.min
  simp only [Scalar.eq, Scalar.lt, decide_true, Bool.not_true, Bool.false_or, decide_eq_true_eq]
  split
  · exact (min_eq_right (le_of_lt ‹_›)).symm
  · exact (min_eq_left (not_lt.mp ‹_›)).symm

theorem max_exact (a b : EReal) : Scalar.max a b = Max.max a b := by
  unfold Scalar.max
  simp only [Scalar.eq, Scalar.lt, decide_true, Bool.not_true, Bool.false_or, decide_eq_true_eq]
  split
  · exact (max_eq_right (le_of_lt ‹_›)).symm
  · exact (max_eq_left (not_lt.mp ‹_›)).symm

theorem max_ofReal (a b : ℝ) : Scalar.max (a : EReal) b = (Max.max a b : ℝ) := by
  rw [max_exact, EReal.coe_strictMono.monotone.map_max]

theorem clamp_exact (lo hi a : EReal) : clamp lo hi a = Min.min hi (Max.max lo a) := by
  have raised : (if lt a lo then lo else a) = Max.max lo a := by
    simp only [Scalar.lt, decide_eq_true_eq]
    split
    · exact (max_eq_left (le_of_lt ‹_›)).symm
    · exact (max_eq_right (not_lt.mp ‹_›)).symm
  simp only [clamp, raised]
  simp only [Scalar.lt, decide_eq_true_eq]
  split
  · exact (min_eq_left (le_of_lt ‹_›)).symm
  · exact (min_eq_right (not_lt.mp ‹_›)).symm

theorem abs_exact (a : ℝ) : Scalar.abs (a : EReal) = (|a| : ℝ) := by
  unfold Scalar.abs
  simp only [Scalar.lt, zero_exact, EReal.coe_lt_coe_iff, decide_eq_true_eq]
  split
  · rw [abs_of_neg ‹_›]
    rfl
  · rw [abs_of_nonneg (not_lt.mp ‹_›)]

end Scalar

namespace Vec

def ofReal (v : Vec ℝ) : Vec EReal := ⟨v.x, v.y⟩

theorem zero_ofReal : (zero : Vec EReal) = ofReal ⟨0, 0⟩ := by
  rw [zero, Scalar.zero_exact, ofReal]

theorem sub_ofReal (v w : Vec ℝ) : v.ofReal - w.ofReal = ofReal ⟨v.x - w.x, v.y - w.y⟩ := rfl

theorem shrink_ofReal (v : Vec ℝ) (k : ℝ) : v.ofReal.shrink k = ofReal ⟨v.x / k, v.y / k⟩ := by
  simp only [shrink, ofReal, EReal.coe_div]

theorem lengthSq_ofReal (v : Vec ℝ) : v.ofReal.lengthSq = (v.x * v.x + v.y * v.y : ℝ) := rfl

theorem length_ofReal (v : Vec ℝ) : v.ofReal.length = (√(v.x ^ 2 + v.y ^ 2) : ℝ) := rfl

theorem abs_ofReal (v : Vec ℝ) : v.ofReal.abs = ofReal ⟨|v.x|, |v.y|⟩ := by
  simp only [abs, ofReal, Scalar.abs_exact]

theorem max_ofReal (v w : Vec ℝ) :
    v.ofReal.max w.ofReal = ofReal ⟨Max.max v.x w.x, Max.max v.y w.y⟩ := by
  simp only [max, ofReal, Scalar.max_ofReal]

end Vec

theorem foldl_embedded {A B : Type} (embed : A → B) (pick : B → B → B) (Beyond : A → A → Prop)
    (picks : ∀ v w, ∃ u, pick (embed v) (embed w) = embed u ∧ Beyond u v ∧ Beyond u w ∧
      ∀ m, Beyond m v → Beyond m w → Beyond m u)
    (refl : ∀ v, Beyond v v) (trans : ∀ u v w, Beyond u v → Beyond v w → Beyond u w)
    (first : A) (rest : List A) :
    ∃ last, (rest.map embed).foldl pick (embed first) = embed last ∧
      (∀ p ∈ first :: rest, Beyond last p) ∧
      ∀ m, (∀ p ∈ first :: rest, Beyond m p) → Beyond m last := by
  induction rest generalizing first with
  | nil => exact ⟨first, rfl, by simpa using refl first, fun m all => all first List.mem_cons_self⟩
  | cons p rest ih =>
    obtain ⟨u, picked, overFirst, overP, leastU⟩ := picks first p
    obtain ⟨last, folded, beyond, least⟩ := ih u
    refine ⟨last, by rw [List.map_cons, List.foldl_cons, picked, folded], ?_, ?_⟩
    · have overU := beyond u List.mem_cons_self
      intro q member
      rcases List.mem_cons.mp member with rfl | later
      · exact trans _ _ _ overU overFirst
      · rcases List.mem_cons.mp later with rfl | later
        · exact trans _ _ _ overU overP
        · exact beyond q (List.mem_cons_of_mem u later)
    · intro m all
      refine least m fun q member => ?_
      rcases List.mem_cons.mp member with rfl | later
      · exact leastU m (all first List.mem_cons_self) (all p (by simp))
      · exact all q (by simp [later])

end CodeAtlas
