import CodeAtlas.Camera
import CodeAtlas.Proofs.ExactNumbers

/-!
The camera under any movements, without rounding. The zoom is clamped, set back, and led from one
value to another by a curve that leaves neither end behind; so it never leaves its range, and what
the screen shows can be read back. A transition ends with its point in the middle of the viewport.
-/
namespace CodeAtlas

instance : Rounds EReal EReal := ⟨id⟩

namespace Transform

def ofReal (t : Transform ℝ) : Transform EReal := ⟨t.pan.ofReal, t.zoom⟩

def InRange (t : Transform ℝ) : Prop := 1 / 20 ≤ t.zoom ∧ t.zoom ≤ 6

theorem minZoom_exact : (minZoom : EReal) = (1 / 20 : ℝ) := by
  change (((5 : ℕ) / 10 ^ 2 : ℝ) : EReal) = (1 / 20 : ℝ)
  norm_num

theorem maxZoom_exact : (maxZoom : EReal) = (6 : ℝ) := by
  rw [maxZoom, Scalar.ofNat_exact]
  norm_num

theorem toScreen_ofReal (t : Transform ℝ) (origin p : Vec ℝ) :
    t.ofReal.toScreen origin.ofReal p.ofReal =
      Vec.ofReal ⟨origin.x + t.pan.x + p.x * t.zoom, origin.y + t.pan.y + p.y * t.zoom⟩ := rfl

theorem toWorld_ofReal (t : Transform ℝ) (origin p : Vec ℝ) :
    t.ofReal.toWorld origin.ofReal p.ofReal = Vec.ofReal
      ⟨(p.x - origin.x - t.pan.x) / t.zoom, (p.y - origin.y - t.pan.y) / t.zoom⟩ := by
  simp only [toWorld, ofReal, Vec.sub_ofReal, Vec.shrink_ofReal]

theorem zoomAbout_ofReal (t : Transform ℝ) (origin anchor : Vec ℝ) (factor : ℝ) :
    let zoom := min 6 (max (1 / 20) (t.zoom * factor))
    t.ofReal.zoomAbout origin.ofReal anchor.ofReal factor = ofReal
      ⟨⟨anchor.x - origin.x - (anchor.x - origin.x - t.pan.x) / t.zoom * zoom,
        anchor.y - origin.y - (anchor.y - origin.y - t.pan.y) / t.zoom * zoom⟩, zoom⟩ := by
  intro zoom
  have product : t.ofReal.zoom * (factor : EReal) = (t.zoom * factor : ℝ) := rfl
  have clamped : Scalar.clamp minZoom maxZoom (t.ofReal.zoom * (factor : EReal)) = (zoom : ℝ) := by
    rw [product, Scalar.clamp_exact, minZoom_exact, maxZoom_exact]
    simp only [zoom, EReal.coe_strictMono.monotone.map_min, EReal.coe_strictMono.monotone.map_max]
  simp only [zoomAbout, clamped, toWorld_ofReal]
  rfl

theorem between_ofReal (a b : Transform ℝ) (share : ℝ) :
    a.ofReal.between b.ofReal share = ofReal
      ⟨⟨a.pan.x + (b.pan.x - a.pan.x) * share, a.pan.y + (b.pan.y - a.pan.y) * share⟩,
        a.zoom + (b.zoom - a.zoom) * share⟩ := rfl

/-! ### A zoom in range -/

theorem InRange.zoom_ne_zero {t : Transform ℝ} (range : t.InRange) : t.zoom ≠ 0 := by
  have low := range.1
  intro none
  rw [none] at low
  norm_num at low

theorem InRange.world_of_screen {t : Transform ℝ} (range : t.InRange) (origin p : Vec ℝ) :
    t.ofReal.toWorld origin.ofReal (t.ofReal.toScreen origin.ofReal p.ofReal) = p.ofReal := by
  have along (o c x : ℝ) : (o + c + x * t.zoom - o - c) / t.zoom = x := by
    rw [div_eq_iff range.zoom_ne_zero]
    ring
  rw [toScreen_ofReal, toWorld_ofReal]
  simp only [along]

theorem InRange.screen_of_world {t : Transform ℝ} (range : t.InRange) (origin p : Vec ℝ) :
    t.ofReal.toScreen origin.ofReal (t.ofReal.toWorld origin.ofReal p.ofReal) = p.ofReal := by
  have along (o c x : ℝ) : o + c + (x - o - c) / t.zoom * t.zoom = x := by
    rw [div_mul_cancel₀ _ range.zoom_ne_zero]
    ring
  rw [toWorld_ofReal, toScreen_ofReal]
  simp only [along]

theorem clamped_inRange (pan : Vec ℝ) (a : ℝ) : InRange ⟨pan, min 6 (max (1 / 20) a)⟩ :=
  ⟨le_min (by norm_num) (le_max_left _ _), min_le_left _ _⟩

/-- The zoom is clamped first, and the pan then brings the point back under its place. -/
theorem zoomAbout_keeps_anchor (t : Transform ℝ) (origin anchor : Vec ℝ) (factor : ℝ) :
    (t.ofReal.zoomAbout origin.ofReal anchor.ofReal factor).toWorld origin.ofReal anchor.ofReal =
      t.ofReal.toWorld origin.ofReal anchor.ofReal := by
  have along {z : ℝ} (some : z ≠ 0) (o a w : ℝ) : (a - o - (a - o - w * z)) / z = w := by
    rw [div_eq_iff some]
    ring
  have some := (clamped_inRange ⟨0, 0⟩ (t.zoom * factor)).zoom_ne_zero
  rw [zoomAbout_ofReal, toWorld_ofReal, toWorld_ofReal]
  simp only [along some]

theorem InRange.between {a b : Transform ℝ} (first : a.InRange) (second : b.InRange) {share : ℝ}
    (low : 0 ≤ share) (high : share ≤ 1) (pan : Vec ℝ) :
    InRange ⟨pan, a.zoom + (b.zoom - a.zoom) * share⟩ := by
  obtain ⟨aLow, aHigh⟩ := first
  obtain ⟨bLow, bHigh⟩ := second
  constructor
  · change 1 / 20 ≤ a.zoom + (b.zoom - a.zoom) * share
    nlinarith
  · change a.zoom + (b.zoom - a.zoom) * share ≤ 6
    nlinarith

end Transform

def Transition.ofReal (m : Transition ℝ ℝ) : Transition EReal EReal :=
  ⟨m.start.ofReal, m.goal.ofReal, m.startedAt⟩

namespace Camera

theorem ease_ofReal {x : ℝ} (low : 0 ≤ x) (high : x ≤ 1) :
    ∃ y : ℝ, ease (x : EReal) = y ∧ 0 ≤ y ∧ y ≤ 1 := by
  have cube {z bound : ℝ} (nonneg : 0 ≤ z) (le : z ≤ bound) :
      0 ≤ z * z * z ∧ z * z * z ≤ bound * bound * bound := by
    have wide : 0 ≤ bound := nonneg.trans le
    refine ⟨by positivity, ?_⟩
    gcongr
  unfold ease
  rw [Scalar.half_exact, Scalar.ofNat_exact, Scalar.ofNat_exact, Scalar.one_exact]
  simp only [Scalar.lt, EReal.coe_lt_coe_iff, decide_eq_true_eq]
  split
  · rename_i early
    obtain ⟨nonneg, small⟩ := cube low (le_of_lt early)
    refine ⟨4 * x * x * x, rfl, ?_, ?_⟩ <;> linarith
  · rename_i late
    let r := -2 * x + 2
    obtain ⟨nonneg, small⟩ := cube (show 0 ≤ r by simp only [r]; linarith)
      (show r ≤ 1 by simp only [r]; linarith [not_lt.mp late])
    refine ⟨1 - r * r * r / 2, ?_, ?_, ?_⟩
    · rw [EReal.coe_sub, EReal.coe_div]
      rfl
    · linarith
    · linarith

/-! ### Movements -/

/-- What moves the camera. -/
inductive Move where
  | pan (delta : Vec ℝ)
  | zoom (origin anchor : Vec ℝ) (factor : ℝ)
  | reset
  | recenter (world viewport : Vec ℝ) (now : ℝ)
  | tick (now : ℝ)

noncomputable def perform (c : Camera EReal EReal) : Move → Camera EReal EReal
  | .pan delta => c.panBy delta.ofReal
  | .zoom origin anchor factor => c.zoomAbout origin.ofReal anchor.ofReal factor
  | .reset => c.reset
  | .recenter world viewport now => c.recenter world.ofReal viewport.ofReal now
  | .tick now => c.tick now

noncomputable def run (moves : List Move) : Camera EReal EReal := moves.foldl perform initial

/-- All numbers are real, and every zoom is in range, also at both ends of a transition. -/
structure Sound (c : Camera EReal EReal) : Prop where
  transform : ∃ t : Transform ℝ, c.transform = t.ofReal ∧ t.InRange
  transition : ∀ m ∈ c.transition, ∃ r : Transition ℝ ℝ,
    m = r.ofReal ∧ r.start.InRange ∧ r.goal.InRange

theorem duration_exact : (duration : EReal) = (3 / 4 : ℝ) := by
  change (((75 : ℕ) / 10 ^ 2 : ℝ) : EReal) = (3 / 4 : ℝ)
  norm_num

theorem closeZoom_exact : (closeZoom : EReal) = (3 / 2 : ℝ) := by
  change (((15 : ℕ) / 10 ^ 1 : ℝ) : EReal) = (3 / 2 : ℝ)
  norm_num

theorem tick_cases {c : Camera EReal EReal} {m : Transition ℝ ℝ}
    (moving : c.transition = some m.ofReal) (now : ℝ) :
    (m.startedAt + 3 / 4 ≤ now ∧ c.tick (now : EReal) = ⟨m.goal.ofReal, none⟩) ∨
      (now < m.startedAt + 3 / 4 ∧ ∃ share : ℝ, 0 ≤ share ∧ share ≤ 1 ∧ c.tick (now : EReal) =
        { c with transform := m.start.ofReal.between m.goal.ofReal share }) := by
  let elapsed := max (now - m.startedAt) 0
  have passed : Scalar.max ((now : EReal) - (m.startedAt : EReal)) Scalar.zero = (elapsed : ℝ) := by
    have difference : (now : EReal) - (m.startedAt : EReal) = (now - m.startedAt : ℝ) := rfl
    rw [difference, Scalar.max_exact, Scalar.zero_exact]
    exact (EReal.coe_strictMono.monotone.map_max).symm
  have ended : Scalar.le duration (elapsed : EReal) = true ↔ m.startedAt + 3 / 4 ≤ now := by
    rw [duration_exact]
    simp only [Scalar.le, EReal.coe_le_coe_iff, decide_eq_true_eq, elapsed, le_max_iff]
    constructor
    · rintro (late | impossible) <;> linarith
    · intro late
      exact Or.inl (by linarith)
  simp only [tick, moving, Transition.ofReal, passed]
  by_cases late : m.startedAt + 3 / 4 ≤ now
  · exact Or.inl ⟨late, if_pos (ended.mpr late)⟩
  · have early : now < m.startedAt + 3 / 4 := not_le.mp late
    have short : elapsed ≤ 3 / 4 := max_le (by linarith) (by norm_num)
    have share : Rounds.round ((elapsed : EReal) / duration) =
        ((elapsed / (3 / 4) : ℝ) : EReal) := by
      rw [duration_exact, EReal.coe_div]
      rfl
    obtain ⟨y, eased, low, high⟩ := ease_ofReal (x := elapsed / (3 / 4))
      (div_nonneg (le_max_right _ _) (by norm_num)) ((div_le_one (by norm_num)).mpr short)
    rw [if_neg (mt ended.mp late), share, eased]
    exact Or.inr ⟨early, y, low, high, rfl⟩

theorem sound_of_still {t : Transform ℝ} (range : t.InRange) : Sound ⟨t.ofReal, none⟩ where
  transform := ⟨t, rfl, range⟩
  transition := by
    intro m none
    cases none

theorem initial_sound : Sound initial := by
  have still : initial = (⟨Transform.ofReal ⟨⟨0, 0⟩, 1⟩, none⟩ : Camera EReal EReal) := by
    simp only [initial, Transform.identity, Transform.ofReal, Vec.zero_ofReal, Scalar.one_exact]
  rw [still]
  exact sound_of_still (by constructor <;> norm_num)

theorem recenter_ofReal {c : Camera EReal EReal} {t : Transform ℝ} (eq : c.transform = t.ofReal)
    (world viewport : Vec ℝ) (now : ℝ) :
    let zoom := min (max t.zoom (3 / 2)) 6
    c.recenter world.ofReal viewport.ofReal now = ⟨t.ofReal, some (Transition.ofReal
      ⟨t, ⟨⟨viewport.x * (1 / 2) - world.x * zoom, viewport.y * (1 / 2) - world.y * zoom⟩, zoom⟩,
        now⟩)⟩ := by
  intro zoom
  have close : Scalar.min (Scalar.max t.ofReal.zoom closeZoom) Transform.maxZoom = (zoom : ℝ) := by
    rw [Scalar.max_exact, Scalar.min_exact, closeZoom_exact, Transform.maxZoom_exact]
    simp only [zoom, Transform.ofReal, EReal.coe_strictMono.monotone.map_min,
      EReal.coe_strictMono.monotone.map_max]
  simp only [recenter, eq, close, Scalar.half_exact]
  rfl

theorem perform_sound {c : Camera EReal EReal} (sound : c.Sound) (move : Move) :
    (c.perform move).Sound := by
  obtain ⟨t, shown, range⟩ := sound.transform
  cases move with
  | pan delta =>
    have panned : c.panBy delta.ofReal =
        ⟨Transform.ofReal ⟨⟨t.pan.x + delta.x, t.pan.y + delta.y⟩, t.zoom⟩, none⟩ := by
      rw [panBy, shown]
      rfl
    rw [perform, panned]
    exact sound_of_still range
  | zoom origin anchor factor =>
    have zoomed : c.zoomAbout origin.ofReal anchor.ofReal factor =
        ⟨t.ofReal.zoomAbout origin.ofReal anchor.ofReal factor, none⟩ := by
      rw [zoomAbout, shown]
    rw [perform, zoomed, Transform.zoomAbout_ofReal]
    exact sound_of_still (Transform.clamped_inRange _ _)
  | reset => exact initial_sound
  | recenter world viewport now =>
    rw [perform, recenter_ofReal shown]
    refine ⟨⟨t, rfl, range⟩, ?_⟩
    intro m started
    cases started
    refine ⟨_, rfl, range, ?_, min_le_right _ _⟩
    exact le_min (le_max_of_le_left range.1) (by norm_num)
  | tick now =>
    cases moving : c.transition with
    | none =>
      have same : c.tick (now : EReal) = c := by simp only [tick, moving]
      rw [perform, same]
      exact sound
    | some m =>
      obtain ⟨r, rfl, start, goal⟩ := sound.transition m moving
      rcases tick_cases moving now with ⟨-, ended⟩ | ⟨-, share, low, high, led⟩
      · rw [perform, ended]
        exact sound_of_still goal
      · rw [perform, led, Transform.between_ofReal]
        exact ⟨⟨_, rfl, start.between goal low high _⟩, sound.transition⟩

theorem run_sound (moves : List Move) : (run moves).Sound := by
  have sound (c : Camera EReal EReal) (start : c.Sound) : (moves.foldl perform c).Sound := by
    induction moves generalizing c with
    | nil => exact start
    | cons move rest ih => exact ih (c.perform move) (perform_sound start move)
  exact sound initial initial_sound

/-! ### The end of a transition -/

/-- Ticks after the start of a transition: it goes on until one of them has reached its end, and
from then on the camera stays at its goal. -/
theorem ticks_reach {c : Camera EReal EReal} {m : Transition ℝ ℝ}
    (moving : c.transition = some m.ofReal) (times : List ℝ) :
    let e := (times.map Move.tick).foldl perform c
    (e.transition = some m.ofReal ∧ ∀ now ∈ times, now < m.startedAt + 3 / 4) ∨
      (e = ⟨m.goal.ofReal, none⟩ ∧ ∃ now ∈ times, m.startedAt + 3 / 4 ≤ now) := by
  have rests (times : List ℝ) (t : Transform EReal) :
      (times.map Move.tick).foldl perform ⟨t, none⟩ = ⟨t, none⟩ := by
    induction times with
    | nil => rfl
    | cons now rest ih => exact ih
  induction times generalizing c with
  | nil => exact Or.inl ⟨moving, by simp⟩
  | cons now rest ih =>
    rcases tick_cases moving now with ⟨late, ended⟩ | ⟨early, share, -, -, led⟩
    · right
      refine ⟨?_, now, List.mem_cons_self, late⟩
      rw [List.map_cons, List.foldl_cons, perform, ended, rests]
    · have goesOn : (c.tick (now : EReal)).transition = some m.ofReal := by rw [led, moving]
      rcases ih goesOn with ⟨still, before⟩ | ⟨reached, later, member, late⟩
      · exact Or.inl ⟨still, List.forall_mem_cons.mpr ⟨early, before⟩⟩
      · exact Or.inr ⟨reached, later, List.mem_cons_of_mem _ member, late⟩

theorem ticks_center {c : Camera EReal EReal} {t : Transform ℝ} (shown : c.transform = t.ofReal)
    (world viewport : Vec ℝ) (start : ℝ) (times : List ℝ) :
    let e := (times.map Move.tick).foldl perform (c.recenter world.ofReal viewport.ofReal start)
    (e.isMoving = false ↔ ∃ now ∈ times, start + 3 / 4 ≤ now) ∧
      (e.isMoving = false → ∀ origin : Vec ℝ, e.transform.toScreen origin.ofReal world.ofReal =
        Vec.ofReal ⟨origin.x + viewport.x / 2, origin.y + viewport.y / 2⟩) := by
  intro e
  have started := congrArg Camera.transition (recenter_ofReal shown world viewport start)
  rcases ticks_reach started times with ⟨still, before⟩ | ⟨reached, after⟩
  · have moving : e.isMoving = true := by simp only [isMoving, e, still, Option.isSome_some]
    rw [moving]
    refine ⟨iff_of_false Bool.noConfusion ?_, fun still => Bool.noConfusion still⟩
    rintro ⟨now, member, late⟩
    exact absurd late (not_le.mpr (before now member))
  · have still : e.isMoving = false := by simp only [isMoving, e, reached, Option.isSome_none]
    refine ⟨iff_of_true still after, fun _ origin => ?_⟩
    have middle (o v w z : ℝ) : o + (v * (1 / 2) - w * z) + w * z = o + v / 2 := by ring
    rw [show e = _ from reached, Transform.toScreen_ofReal]
    simp only [middle]

/-- After any movements, at any times and by any factors: the zoom is within its limits, so that it
is not nothing, and reading a place of the screen as a point is inverse to showing the point. To zoom
about a place leaves the point under it, even where the limits cut the factor short. A transition
that starts then is over exactly if one of the ticks after it has reached its end, and its point is
then in the middle of the viewport. -/
theorem zoom_in_range_and_recentered_in_middle (moves : List Move) :
    let c := run moves
    let t := c.transform
    (Transform.minZoom ≤ t.zoom ∧ t.zoom ≤ Transform.maxZoom ∧ t.zoom ≠ 0) ∧
      (∀ origin p : Vec ℝ,
        t.toWorld origin.ofReal (t.toScreen origin.ofReal p.ofReal) = p.ofReal ∧
          t.toScreen origin.ofReal (t.toWorld origin.ofReal p.ofReal) = p.ofReal) ∧
      (∀ (origin anchor : Vec ℝ) (factor : ℝ),
        (c.zoomAbout origin.ofReal anchor.ofReal factor).transform.toWorld origin.ofReal
          anchor.ofReal = t.toWorld origin.ofReal anchor.ofReal) ∧
      ∀ (world viewport : Vec ℝ) (start : ℝ) (times : List ℝ),
        let e := run (moves ++ .recenter world viewport start :: times.map .tick)
        (e.isMoving = false ↔ ∃ now ∈ times, start + 3 / 4 ≤ now) ∧
          (e.isMoving = false → ∀ origin : Vec ℝ,
            e.transform.toScreen origin.ofReal world.ofReal =
              Vec.ofReal ⟨origin.x + viewport.x / 2, origin.y + viewport.y / 2⟩) := by
  intro c t
  obtain ⟨r, shown, range⟩ := (run_sound moves).transform
  have real : t = r.ofReal := shown
  refine ⟨⟨?_, ?_, ?_⟩, ?_, ?_, ?_⟩
  · rw [real, Transform.minZoom_exact]
    exact EReal.coe_le_coe_iff.mpr range.1
  · rw [real, Transform.maxZoom_exact]
    exact EReal.coe_le_coe_iff.mpr range.2
  · rw [real]
    exact EReal.coe_ne_zero.mpr range.zoom_ne_zero
  · intro origin p
    rw [real]
    exact ⟨range.world_of_screen origin p, range.screen_of_world origin p⟩
  · intro origin anchor factor
    rw [zoomAbout, show c.transform = r.ofReal from shown, real]
    exact r.zoomAbout_keeps_anchor origin anchor factor
  · intro world viewport start times e
    have followed : e = (times.map Move.tick).foldl perform
        (c.recenter world.ofReal viewport.ofReal start) := List.foldl_append
    rw [followed]
    exact ticks_center shown world viewport start times

-- ten times as close is cut short to six times, and after half of its time a transition is half done
example :
    let zoomed : Camera Float Float32 := initial.zoomAbout Vec.zero ⟨96, 48⟩ 10
    let led : Camera Float Float32 := (initial.recenter ⟨10, 20⟩ ⟨200, 100⟩ 1).tick 1.375
    zoomed.transform = ⟨⟨-480, -240⟩, 6⟩ ∧
      zoomed.transform.toWorld Vec.zero ⟨96, 48⟩ = ⟨96, 48⟩ ∧
      led.isMoving = true ∧ led.transform = ⟨⟨42.5, 10⟩, 1.25⟩ := by
  decide +kernel

end Camera

end CodeAtlas
