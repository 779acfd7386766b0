import CodeAtlas.Proofs.LayoutRuns

/-!
What the energy of a layout tends to. A drag that takes hold keeps it up for as long as a body is
pinned. A new start carries pins over but not the energy that belongs to them: until another drag
takes hold, its energy runs out although bodies are pinned.
-/
namespace CodeAtlas.Layout

variable {α : Type}

/-! ### Pins -/

def pinnedOf (bodies : Array (Body α)) : Array Bool := bodies.map Body.isPinned

namespace Simulation

theorem hasPin_of_pinned {s t : Simulation α} (same : pinnedOf t.bodies = pinnedOf s.bodies) :
    t.hasPin = s.hasPin := by
  have pinned (s : Simulation α) : s.hasPin = (pinnedOf s.bodies).any id := by
    simp [hasPin, pinnedOf]
  rw [pinned, pinned, same]

theorem hasPin_iff {s : Simulation α} :
    s.hasPin = true ↔ ∃ (i : Nat) (b : Body α), s.bodies[i]? = some b ∧ b.isPinned = true := by
  simp only [hasPin, Array.any_eq_true, Array.getElem?_eq_some_iff]
  constructor
  · rintro ⟨i, inside, pinned⟩
    exact ⟨i, _, ⟨inside, rfl⟩, pinned⟩
  · rintro ⟨i, b, ⟨inside, rfl⟩, pinned⟩
    exact ⟨i, inside, pinned⟩

theorem modify_hasPin (s : Simulation α) (id : String) {f : Body α → Body α}
    (keeps : ∀ b, (f b).isPinned = b.isPinned) : (s.modify id f).hasPin = s.hasPin := by
  unfold modify
  split
  · apply hasPin_of_pinned
    apply Array.ext
    · simp [pinnedOf]
    · intro i _ _
      simp only [pinnedOf, Array.getElem_map, Array.getElem_modify]
      split
      · exact keeps _
      · rfl
  · rfl

theorem modify_target (s : Simulation α) (id : String) (f : Body α → Body α) :
    (s.modify id f).alphaTarget = s.alphaTarget := by
  unfold modify
  split <;> rfl

theorem hasPin_of_freed {s : Simulation α} {id : String} {f : Body α → Body α}
    (frees : ∀ b, (f b).isPinned = false) (left : (s.modify id f).hasPin = true) :
    s.hasPin = true := by
  unfold modify at left
  split at left
  · obtain ⟨i, b, found, pinned⟩ := hasPin_iff.mp left
    rw [Array.getElem?_modify] at found
    split at found
    · obtain ⟨before, _, freed⟩ := Option.map_eq_some_iff.mp found
      rw [← freed, frees] at pinned
      cases pinned
    · exact hasPin_iff.mpr ⟨i, b, found, pinned⟩
  · exact left

theorem Aligned.hasPin_modify {s : Simulation α} (aligned : s.Aligned) {id : String}
    (known : (s.indexOf? id).isSome = true) {f : Body α → Body α}
    (pins : ∀ b, (f b).isPinned = true) : (s.modify id f).hasPin = true := by
  obtain ⟨i, found⟩ := Option.isSome_iff_exists.mp known
  obtain ⟨inside, _⟩ := Array.getElem?_eq_some_iff.mp ((aligned.index id i).mp found)
  have inside : i < s.bodies.size := by simpa [idsOf] using inside
  rw [modify, found]
  refine hasPin_iff.mpr ⟨i, f s.bodies[i], ?_, pins _⟩
  rw [Array.getElem?_modify, if_pos rfl, Array.getElem?_eq_getElem inside]
  rfl

end Simulation

variable [Scalar α]

/-! ### The energy -/

namespace Simulation

/-- The energy is kept up while a body is pinned, provided that a drag has taken hold. -/
def Tends (s : Simulation α) (held : Bool) : Prop :=
  s.alphaTarget = if s.hasPin && held then Engine.dragAlpha else Scalar.zero

theorem Tends.alike {s t : Simulation α} {held : Bool} (tends : s.Tends held)
    (target : t.alphaTarget = s.alphaTarget) (pins : t.hasPin = s.hasPin) : t.Tends held := by
  rw [Tends, target, pins]
  exact tends

theorem tends_of_pinned {s : Simulation α} (pinned : s.hasPin = true)
    (target : s.alphaTarget = Engine.dragAlpha) : s.Tends true := by
  rw [Tends, target, pinned]
  rfl

theorem tends_of_free {s : Simulation α} (free : s.hasPin = false)
    (target : s.alphaTarget = Scalar.zero) (held : Bool) : s.Tends held := by
  rw [Tends, target, free]
  rfl

end Simulation

namespace Engine

def Tends (e : Engine α) (held : Bool) : Prop := ∀ s, e.simulation = some s → s.Tends held

theorem Tends.map {e : Engine α} {held : Bool} (tends : e.Tends held)
    {f : Simulation α → Simulation α} (kept : ∀ s : Simulation α, s.Tends held → (f s).Tends held) :
    ({ e with simulation := e.simulation.map f }).Tends held := by
  intro t after
  obtain ⟨s, before, same⟩ := Option.map_eq_some_iff.mp after
  rw [← same]
  exact kept s (tends s before)

theorem sync_tends {e : Engine α} {held : Bool} (tends : e.Tends held) (v : View)
    (viewport : Vec α) : (e.sync v viewport).1.Tends (held && !(e.sync v viewport).2) := by
  unfold sync
  split
  · simpa using tends
  · -- a new simulation has nothing to tend to, whatever is pinned in it
    intro s after
    cases after
    simp [Simulation.Tends, Simulation.start]

theorem step_tends {e : Engine α} {held : Bool} (tends : e.Tends held) (seconds : α) :
    (e.step seconds).1.Tends held := by
  unfold step
  split
  · rename_i s present
    have before := tends s present
    split
    · dsimp only
      split
      · intro t after
        cases after
        exact before.alike rfl rfl
      · intro t after
        cases after
        exact before.alike rfl (Simulation.hasPin_of_pinned (advance_same (fun _ _ _ => rfl) _ _ _ _ _ _))
    · exact tends
  · exact tends

theorem beginDrag_tends {e : Engine α} (aligned : e.Aligned) {held : Bool} (tends : e.Tends held)
    (id : String) (world : Vec α) :
    (e.beginDrag id world).1.Tends ((e.beginDrag id world).2 || held) := by
  unfold beginDrag
  split
  · rename_i s present
    split
    · rename_i known
      intro t after
      cases after
      have pinned := (aligned.simulation s present).hasPin_modify known (f := fun b =>
        { b with pin := some world, position := world, velocity := Vec.zero }) fun _ => rfl
      exact Simulation.tends_of_pinned pinned rfl
    · simpa using tends
  · simpa using tends

theorem dragTo_tends {e : Engine α} {held : Bool} (tends : e.Tends held) (id : String)
    (world : Vec α) : (e.dragTo id world).Tends held := by
  refine tends.map ?_
  intro s before
  refine before.alike (s.modify_target id _) (s.modify_hasPin id ?_)
  intro b
  split
  · rename_i pinned
    exact pinned.symm
  · rfl

theorem endDrag_tends {e : Engine α} {held : Bool} (tends : e.Tends held) (id : String) :
    (e.endDrag id).Tends held := by
  refine tends.map ?_
  intro s before
  dsimp only
  split
  · rename_i left
    have pinned : s.hasPin = true := Simulation.hasPin_of_freed (fun _ => rfl) left
    exact before.alike (s.modify_target id _) (left.trans pinned.symm)
  · rename_i free
    apply Simulation.tends_of_free
    · exact Bool.eq_false_iff.mpr free
    · rfl

/-! ### Runs -/

/-- Whether a drag has taken hold since the simulation was started, after one more action. A drag
takes hold if it finds its body. -/
def heldBy (e : Engine α) (held : Bool) : Action α → Bool
  | .sync g _ criteria viewport => held && !(e.sync (View.of g criteria) viewport).2
  | .beginDrag id world => (e.beginDrag id world).2 || held
  | _ => held

def heldAfter (e : Engine α) (held : Bool) : List (Action α) → Bool
  | [] => held
  | a :: rest => heldAfter (e.perform a) (e.heldBy held a) rest

theorem perform_tends {e : Engine α} (aligned : e.Aligned) {held : Bool} (tends : e.Tends held)
    (a : Action α) : (e.perform a).Tends (e.heldBy held a) := by
  cases a with
  | sync g wf criteria viewport => exact sync_tends tends (View.of g criteria) viewport
  | step seconds => exact step_tends tends seconds
  | beginDrag id world => exact beginDrag_tends aligned tends id world
  | dragTo id world => exact dragTo_tends tends id world
  | endDrag id => exact endDrag_tends tends id
  | reheat alpha => exact tends.map fun s before => before.alike rfl rfl
  | stop => exact tends.map fun s before => before.alike rfl rfl
  | setTuning tuning => exact tends

theorem run_tends {e : Engine α} (aligned : e.Aligned) {held : Bool} (tends : e.Tends held)
    (actions : List (Action α)) : (e.run actions).Tends (e.heldAfter held actions) := by
  induction actions generalizing e held with
  | nil => exact tends
  | cons a rest ih => exact ih (perform_aligned aligned a) (perform_tends aligned tends a)

/-! ### Settling -/

theorem step_isRunning {e : Engine α} {s : Simulation α} (present : e.simulation = some s)
    (running : s.running = true) (seconds : α) :
    (e.step seconds).1.isRunning =
      !(Scalar.lt s.cooled (Scalar.decimal 1 3) && Scalar.le s.alphaTarget Scalar.zero) := by
  simp only [step, present, running, ↓reduceIte, Simulation.rests]
  split
  · rename_i rests
    rw [rests]
    rfl
  · rename_i goes
    rw [Bool.eq_false_iff.mpr goes]
    rfl

/-- Running, with energy that something keeps up. -/
def KeptUp (e : Engine α) : Prop :=
  ∃ s, e.simulation = some s ∧ s.running = true ∧ Scalar.le s.alphaTarget Scalar.zero = false

theorem KeptUp.step {e : Engine α} (kept : e.KeptUp) (seconds : α) :
    (e.step seconds).1.KeptUp := by
  obtain ⟨s, present, running, target⟩ := kept
  simp only [Engine.step, present, running, ↓reduceIte, Simulation.rests, target, Bool.and_false]
  exact ⟨_, rfl, rfl, target⟩

theorem KeptUp.run {e : Engine α} (kept : e.KeptUp) (seconds : List α) :
    (e.run (seconds.map .step)).KeptUp := by
  induction seconds generalizing e with
  | nil => exact kept
  | cons first rest ih => exact ih (kept.step first)

theorem KeptUp.isRunning {e : Engine α} (kept : e.KeptUp) : e.isRunning = true := by
  obtain ⟨s, present, running, _⟩ := kept
  simp [Engine.isRunning, present, running]

end Engine

/-! ### Single precision -/

theorem dragAlpha_pos : Scalar.le (Engine.dragAlpha : Float32) Scalar.zero = false := by
  decide +kernel

theorem dragAlpha_ne_zero : (Engine.dragAlpha : Float32) ≠ Scalar.zero := by decide +kernel

theorem Simulation.Tends.spent {s : Simulation Float32} {held : Bool} (tends : s.Tends held) :
    Scalar.le s.alphaTarget Scalar.zero = !(s.hasPin && held) := by
  rw [tends]
  split
  · rename_i kept
    rw [kept]
    exact dragAlpha_pos
  · rename_i free
    rw [Bool.eq_false_iff.mpr free]
    decide +kernel

namespace Engine

/-- After any actions the energy tends to that of a drag if a body is pinned and a drag has taken
hold since the simulation was started, and to nothing otherwise; so it is as the pins alone would
have it just if no pin was only carried over. While a held body stays pinned, no steps settle the
simulation; otherwise the step does that leaves hardly any energy. -/
theorem energy_kept_up_by_held_pins (tuning : Tuning Float32) (actions : List (Action Float32)) :
    let e := (new tuning).run actions
    let held := (new tuning).heldAfter false actions
    ∀ s, e.simulation = some s →
      s.alphaTarget = (if s.hasPin && held then dragAlpha else Scalar.zero) ∧
      (s.alphaTarget = (if s.hasPin then dragAlpha else Scalar.zero) ↔
        (s.hasPin = true → held = true)) ∧
      (s.running = true → (s.hasPin && held) = true →
        ∀ seconds : List Float32, (e.run (seconds.map .step)).isRunning = true) ∧
      (s.running = true → (s.hasPin && held) = false →
        ∀ seconds, (e.step seconds).1.isRunning = !Scalar.lt s.cooled (Scalar.decimal 1 3)) := by
  intro e held s present
  have initial : (new tuning).Tends false := by
    intro s started
    cases started
  have tends : s.Tends held := run_tends (new_aligned tuning) initial actions s present
  refine ⟨tends, ?_, ?_, ?_⟩
  · rw [show s.alphaTarget = _ from tends]
    have differ := dragAlpha_ne_zero
    cases s.hasPin <;> cases held <;> simp [differ.symm]
  · intro running kept seconds
    have keptUp : e.KeptUp := ⟨s, present, running, by rw [tends.spent, kept]; rfl⟩
    exact (keptUp.run seconds).isRunning
  · intro running free seconds
    rw [step_isRunning present running, tends.spent, free, Bool.not_false, Bool.and_true]

/-- A node is dragged, and no steps settle the simulation. -/
theorem dragged_node_never_settles :
    let g := Snapshot.ofPayload ⟨[{ id := "a", kind := .file }], []⟩
    let wf := Snapshot.ofPayload_wellFormed ⟨[{ id := "a", kind := .file }], []⟩
    let e := (new Tuning.standard).run [.sync g wf {} ⟨100, 100⟩, .beginDrag "a" ⟨10, 10⟩]
    ∃ s : Simulation Float32, e.simulation = some s ∧ s.hasPin = true ∧
      s.alphaTarget = dragAlpha ∧
      ∀ seconds : List Float32, (e.run (seconds.map .step)).isRunning = true := by
  intro g wf e
  have shown : e.simulation.map (fun s => (s.running, s.hasPin)) = some (true, true) := by
    decide +kernel
  have held : (new Tuning.standard).heldAfter false
      [.sync g wf {} ⟨100, 100⟩, .beginDrag "a" (⟨10, 10⟩ : Vec Float32)] = true := by
    decide +kernel
  obtain ⟨s, present, same⟩ := Option.map_eq_some_iff.mp shown
  obtain ⟨running, pinned⟩ := Prod.mk.inj same
  obtain ⟨target, _, kept, _⟩ := energy_kept_up_by_held_pins Tuning.standard
    [.sync g wf {} ⟨100, 100⟩, .beginDrag "a" ⟨10, 10⟩] s present
  simp only [pinned, held, Bool.and_self, ↓reduceIte] at target kept
  exact ⟨s, present, pinned, target, kept running trivial⟩

/-- The viewport changes while the only node is dragged: the node stays pinned, and yet there is
nothing that the energy tends to, and the simulation settles. -/
theorem carried_pin_settles :
    let g := Snapshot.ofPayload ⟨[{ id := "a", kind := .file }], []⟩
    let wf := Snapshot.ofPayload_wellFormed ⟨[{ id := "a", kind := .file }], []⟩
    let e := (new Tuning.standard).run [.sync g wf {} ⟨100, 100⟩, .beginDrag "a" ⟨10, 10⟩,
      .sync g wf {} ⟨200, 100⟩]
    e.simulation.map (fun s => (s.hasPin, s.alphaTarget)) = some (true, (Scalar.zero : Float32)) ∧
      (e.run (List.replicate 272 (.step 0.016))).isRunning = false := by
  decide +kernel

end Engine

end CodeAtlas.Layout
