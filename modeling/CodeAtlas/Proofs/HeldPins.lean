import CodeAtlas.Proofs.LayoutStarts

/-!
Pinned bodies hold still. A step of the physics puts each of them at its pin, and what it does to
all bodies together afterwards it does only while none is pinned; a drag moves pin and body at once;
a new start carries both over. None of this looks at a number, so it holds for numbers of any
kind.
-/
namespace CodeAtlas.Layout

variable {α : Type} [Scalar α]

def Body.HoldsStill (b : Body α) : Prop :=
  ∀ p, b.pin = some p → b.position = p ∧ b.velocity = Vec.zero

theorem holdsStill_of_free {b : Body α} (free : b.pin = none) : b.HoldsStill := by
  intro p pinned
  rw [free] at pinned
  cases pinned

/-! ### A step of the physics -/

theorem move_holdsStill (m : Motion α) (b : Body α) (force : Vec α) :
    (m.move b force).HoldsStill := by
  cases free : b.pin with
  | none =>
    apply holdsStill_of_free
    simp [Motion.move, free]
  | some pin =>
    intro p pinned
    simp only [Motion.move, free, Option.some.injEq] at pinned ⊢
    exact ⟨pinned, trivial⟩

theorem settle_holdsStill {center : Vec α} {bodies : Array (Body α)}
    (still : ∀ b ∈ bodies, b.HoldsStill) : ∀ b ∈ settle center bodies, b.HoldsStill := by
  intro b member
  by_cases pinned : bodies.any Body.isPinned = true
  · rw [settle, if_neg (by simp [pinned])] at member
    exact still b member
  · -- all bodies are shifted, pinned or not, but here there is no pin
    apply holdsStill_of_free
    have pins : (settle center bodies).map Body.pin = bodies.map Body.pin :=
      settle_same (fun _ _ _ => rfl) center bodies
    have inPins : b.pin ∈ bodies.map Body.pin := pins ▸ Array.mem_map.mpr ⟨b, member, rfl⟩
    obtain ⟨before, there, same⟩ := Array.mem_map.mp inPins
    rw [← same]
    simp only [Array.any_eq_true', not_exists, not_and, Body.isPinned,
      Option.not_isSome_iff_eq_none] at pinned
    exact pinned before there

theorem advance_holdsStill (t : Tuning α) (springs : List Spring) (center : Vec α)
    (alpha seconds : α) (bodies : Array (Body α)) :
    ∀ b ∈ (advance t springs center alpha seconds bodies).1, b.HoldsStill := by
  apply settle_holdsStill
  intro b member
  obtain ⟨i, _, moved⟩ := Array.mem_mapIdx.mp member
  rw [← moved]
  exact move_holdsStill _ _ _

/-! ### Drags and new starts -/

theorem modify_holdsStill {s : Simulation α} (still : ∀ b ∈ s.bodies, b.HoldsStill) (id : String)
    {f : Body α → Body α} (kept : ∀ b, b.HoldsStill → (f b).HoldsStill) :
    ∀ b ∈ (s.modify id f).bodies, b.HoldsStill := by
  intro b member
  unfold Simulation.modify at member
  split at member
  · obtain ⟨j, inside, there⟩ := Array.mem_iff_getElem.mp member
    rw [Array.getElem_modify] at there
    rw [Array.size_modify] at inside
    have before := still s.bodies[j] (Array.getElem_mem inside)
    split at there
    · exact there ▸ kept _ before
    · exact there ▸ before
  · exact still b member

theorem start_holdsStill {before : Array (Body α)} (still : ∀ b ∈ before, b.HoldsStill) (v : View)
    (center : Vec α) : ∀ b ∈ (Simulation.start v center before).bodies, b.HoldsStill := by
  intro b member
  obtain ⟨i, there⟩ := Array.getElem?_of_mem member
  cases prior : (priors v before).getD i none with
  | none => exact holdsStill_of_free (start_placed there prior).1
  | some old =>
    obtain ⟨position, pin, velocity⟩ := start_carried there prior
    rw [priors_getD, Option.bind_eq_some_iff] at prior
    obtain ⟨n, _, found⟩ := prior
    intro p pinned
    rw [pin] at pinned
    exact ⟨position.trans (still old (Array.mem_of_find?_eq_some found) p pinned).1, velocity⟩

namespace Engine

def HoldsPins (e : Engine α) : Prop := ∀ b ∈ e.bodies, b.HoldsStill

theorem HoldsPins.simulation {e : Engine α} (holds : e.HoldsPins) {s : Simulation α}
    (present : e.simulation = some s) : ∀ b ∈ s.bodies, b.HoldsStill := by
  simpa [HoldsPins, bodies, present] using holds

theorem HoldsPins.map {e : Engine α} (holds : e.HoldsPins) {f : Simulation α → Simulation α}
    (kept : ∀ s : Simulation α, (∀ b ∈ s.bodies, b.HoldsStill) → ∀ b ∈ (f s).bodies, b.HoldsStill) :
    ({ e with simulation := e.simulation.map f }).HoldsPins := by
  cases present : e.simulation with
  | none => simp [HoldsPins, bodies]
  | some s => simpa [HoldsPins, bodies] using kept s (holds.simulation present)

theorem sync_holdsPins {e : Engine α} (holds : e.HoldsPins) (v : View) (viewport : Vec α) :
    (e.sync v viewport).1.HoldsPins := by
  unfold sync
  split
  · exact holds
  · exact start_holdsStill holds v _

theorem beginDrag_holdsPins {e : Engine α} (holds : e.HoldsPins) (id : String) (world : Vec α) :
    (e.beginDrag id world).1.HoldsPins := by
  unfold beginDrag
  split
  · rename_i s present
    split
    · refine modify_holdsStill (holds.simulation present) id ?_
      rintro b _ p pinned
      cases pinned
      exact ⟨rfl, rfl⟩
    · exact holds
  · exact holds

theorem dragTo_holdsPins {e : Engine α} (holds : e.HoldsPins) (id : String) (world : Vec α) :
    (e.dragTo id world).HoldsPins := by
  refine holds.map fun s before => modify_holdsStill before id ?_
  intro b still
  split
  · rename_i pinned
    obtain ⟨old, isPin⟩ := Option.isSome_iff_exists.mp pinned
    -- a drag leaves the velocity alone: it is that of a body that was pinned before
    rintro p moved
    cases moved
    exact ⟨rfl, (still old isPin).2⟩
  · exact still

theorem endDrag_holdsPins {e : Engine α} (holds : e.HoldsPins) (id : String) :
    (e.endDrag id).HoldsPins := by
  refine holds.map fun s before => ?_
  have freed := modify_holdsStill before id (f := fun b => { b with pin := none }) fun _ _ =>
    holdsStill_of_free rfl
  dsimp only
  split <;> exact freed

/-! ### Steps that carry the physics out -/

/-- The simulation runs, and the next step does not bring it to rest. -/
def GoesOn (e : Engine α) : Prop :=
  ∃ s, e.simulation = some s ∧ s.running = true ∧ { s with alpha := s.cooled }.rests = false

theorem step_of_goesOn {e : Engine α} (goesOn : e.GoesOn) (seconds : α) :
    ∃ s, e.simulation = some s ∧
      let bodies := (advance e.tuning s.springs s.center s.cooled seconds s.bodies).1
      (e.step seconds).1 = { e with
        simulation := some { s with alpha := s.cooled, bodies } }.publish (e.frame.tick + 1) := by
  obtain ⟨s, present, running, awake⟩ := goesOn
  refine ⟨s, present, ?_⟩
  rw [step, present]
  dsimp only
  rw [if_pos running, if_neg (Bool.eq_false_iff.mp awake)]

theorem step_of_rest {e : Engine α} (rest : ¬ e.GoesOn) (seconds : α) :
    (e.step seconds).1.bodies = e.bodies ∧ (e.step seconds).1.frame = e.frame := by
  unfold step
  split
  · rename_i s present
    split
    · rename_i running
      have rests : { s with alpha := s.cooled }.rests = true := by
        by_contra awake
        exact rest ⟨s, present, running, Bool.eq_false_iff.mpr awake⟩
      simp [rests, bodies, present]
    · exact ⟨rfl, rfl⟩
  · exact ⟨rfl, rfl⟩

theorem step_holdsPins {e : Engine α} (holds : e.HoldsPins) (seconds : α) :
    (e.step seconds).1.HoldsPins := by
  by_cases goesOn : e.GoesOn
  · obtain ⟨s, _, after⟩ := step_of_goesOn goesOn seconds
    rw [after]
    exact advance_holdsStill _ _ _ _ _ _
  · rw [HoldsPins, (step_of_rest goesOn seconds).1]
    exact holds

theorem step_pins {e : Engine α} (goesOn : e.GoesOn) (seconds : α) :
    (e.step seconds).1.bodies.map (·.pin) = e.bodies.map (·.pin) := by
  obtain ⟨s, present, after⟩ := step_of_goesOn goesOn seconds
  rw [after]
  simp only [publish, bodies, present]
  have kept (b : Body α) (position velocity : Vec α) :
      ({ b with position, velocity } : Body α).pin = b.pin := rfl
  exact advance_same kept _ _ _ _ _ _

theorem step_publishes {e : Engine α} (goesOn : e.GoesOn) (seconds : α) :
    (e.step seconds).1.frame =
      ⟨e.generation, e.frame.tick + 1, (e.step seconds).1.bodies.map (·.position)⟩ := by
  obtain ⟨s, _, after⟩ := step_of_goesOn goesOn seconds
  rw [after]
  rfl

/-! ### Runs -/

theorem perform_holdsPins {e : Engine α} (holds : e.HoldsPins) (a : Action α) :
    (e.perform a).HoldsPins := by
  cases a with
  | sync g wf criteria viewport => exact sync_holdsPins holds (View.of g criteria) viewport
  | step seconds => exact step_holdsPins holds seconds
  | beginDrag id world => exact beginDrag_holdsPins holds id world
  | dragTo id world => exact dragTo_holdsPins holds id world
  | endDrag id => exact endDrag_holdsPins holds id
  | reheat alpha => exact holds.map fun _ before => before
  | stop => exact holds.map fun _ before => before
  | setTuning tuning => exact holds

theorem run_holdsPins {e : Engine α} (holds : e.HoldsPins) (actions : List (Action α)) :
    (e.run actions).HoldsPins := by
  induction actions generalizing e with
  | nil => exact holds
  | cons a rest ih => exact ih (perform_holdsPins holds a)

/-- Whatever was done to a layout since it was new, each pinned body is at its pin and has no
velocity. A step that carries the physics out leaves the pins as they are and publishes each pinned
body at its pin; any other step moves and publishes nothing. -/
theorem pinned_bodies_hold_still (tuning : Tuning α) (actions : List (Action α)) :
    let e := (new tuning).run actions
    (∀ b ∈ e.bodies, ∀ p, b.pin = some p → b.position = p ∧ b.velocity = Vec.zero) ∧
      ∀ seconds, let f := (e.step seconds).1
        (e.GoesOn → f.bodies.map (·.pin) = e.bodies.map (·.pin) ∧
          f.frame.tick = e.frame.tick + 1 ∧
          ∀ (i : Nat) p, (f.bodies.map (·.pin))[i]? = some (some p) →
            f.frame.positions[i]? = some p) ∧
        (¬ e.GoesOn → f.bodies = e.bodies ∧ f.frame = e.frame) := by
  intro e
  have initial : (new tuning).HoldsPins := by simp [HoldsPins, new, bodies]
  have holds : e.HoldsPins := run_holdsPins initial actions
  refine ⟨holds, ?_⟩
  intro seconds f
  refine ⟨?_, fun rest => step_of_rest rest seconds⟩
  intro goesOn
  have published : f.frame = _ := step_publishes goesOn seconds
  refine ⟨step_pins goesOn seconds, by rw [published], ?_⟩
  intro i p pinned
  rw [Array.getElem?_map, Option.map_eq_some_iff] at pinned
  obtain ⟨b, there, pin⟩ := pinned
  have still := step_holdsPins holds seconds b (Array.mem_of_getElem? there)
  rw [published, Array.getElem?_map, there, Option.map_some, (still p pin).1]

/-- A node is dragged to where no point of the plane is. Neither the tuning nor the length of the
step is a number; the node stays there. -/
theorem dragged_beyond_numbers_holds_still :
    let g := Snapshot.ofPayload ⟨[{ id := "a", kind := .file }, { id := "b", kind := .file }], []⟩
    let wf := Snapshot.ofPayload_wellFormed
      ⟨[{ id := "a", kind := .file }, { id := "b", kind := .file }], []⟩
    let nan : Float32 := 0.0 / 0.0
    let e := (new ⟨nan, nan, nan, nan, nan⟩).run [.sync g wf {} ⟨100, 100⟩,
      .beginDrag "b" ⟨10, 10⟩, .dragTo "b" ⟨nan, 1.0 / 0.0⟩]
    e.GoesOn ∧ (e.step nan).1.frame.positions[1]? = some ⟨nan, 1.0 / 0.0⟩ := by
  intro g wf nan e
  have stands : e.simulation.map (fun s => (s.running, { s with alpha := s.cooled }.rests)) =
      some (true, false) := by decide +kernel
  have pins : (e.bodies.map (·.pin))[1]? = some (some ⟨nan, 1.0 / 0.0⟩) := by decide +kernel
  obtain ⟨s, present, same⟩ := Option.map_eq_some_iff.mp stands
  obtain ⟨running, awake⟩ := Prod.mk.inj same
  have goesOn : e.GoesOn := ⟨s, present, running, awake⟩
  obtain ⟨kept, _, shown⟩ := ((pinned_bodies_hold_still ⟨nan, nan, nan, nan, nan⟩
    [.sync g wf {} ⟨100, 100⟩, .beginDrag "b" ⟨10, 10⟩,
      .dragTo "b" ⟨nan, 1.0 / 0.0⟩]).2 nan).1 goesOn
  exact ⟨goesOn, shown 1 _ (by rw [kept]; exact pins)⟩

end Engine

end CodeAtlas.Layout
