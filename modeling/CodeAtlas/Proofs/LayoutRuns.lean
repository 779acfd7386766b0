import CodeAtlas.Picture.Scene
import CodeAtlas.Proofs.PhysicsRange
import CodeAtlas.Proofs.ViewLaws

/-!
Runs of the layout. A simulation names its bodies in three ways: by their place among the bodies,
by the ends of springs, and by the index of identities. The engine publishes positions beside
them. Only a new start renews these; every other operation keeps bodies, springs and index as they
are, and so they agree in every state.
-/
namespace CodeAtlas

namespace Layout

variable {α : Type}

theorem idsOf_eq (bodies : Array (Body α)) : idsOf bodies = (outlineOf bodies).map Prod.fst := by
  simp [idsOf, outlineOf, Function.comp_def]

namespace Simulation

/-- Springs join different bodies that are there, and the index gives each body its place. -/
structure Aligned (s : Simulation α) : Prop where
  springs : ∀ l ∈ s.springs,
    l.source < s.bodies.size ∧ l.target < s.bodies.size ∧ l.source ≠ l.target
  index : ∀ id i, s.indexOf? id = some i ↔ (idsOf s.bodies)[i]? = some id

structure Alike (s t : Simulation α) : Prop where
  outline : outlineOf t.bodies = outlineOf s.bodies
  springs : t.springs = s.springs
  index : t.index = s.index

theorem Alike.ids {s t : Simulation α} (alike : s.Alike t) : idsOf t.bodies = idsOf s.bodies := by
  rw [idsOf_eq, idsOf_eq, alike.outline]

theorem Alike.size {s t : Simulation α} (alike : s.Alike t) : t.bodies.size = s.bodies.size := by
  have sizes := congrArg Array.size alike.ids
  simpa [idsOf] using sizes

theorem Alike.aligned {s t : Simulation α} (alike : s.Alike t) (aligned : s.Aligned) :
    t.Aligned := by
  constructor
  · intro l member
    rw [alike.springs] at member
    rw [alike.size]
    exact aligned.springs l member
  · intro id i
    rw [indexOf?, alike.index, alike.ids]
    exact aligned.index id i

theorem alike_refl (s : Simulation α) : s.Alike s := ⟨rfl, rfl, rfl⟩

theorem modify_alike (s : Simulation α) (id : String) {f : Body α → Body α}
    (named : ∀ b, ((f b).id, (f b).kind) = (b.id, b.kind)) : s.Alike (s.modify id f) := by
  unfold modify
  split
  · refine ⟨?_, rfl, rfl⟩
    apply Array.ext
    · simp [outlineOf]
    · intro i _ _
      simp only [outlineOf, Array.getElem_map, Array.getElem_modify]
      split
      · exact named _
      · rfl
  · exact alike_refl s

end Simulation

namespace Engine

/-- The simulation agrees with itself, and what is published is a position for each of its bodies,
under the number of the present start. -/
structure Aligned (e : Engine α) : Prop where
  simulation : ∀ s, e.simulation = some s → s.Aligned
  published : e.frame.positions.size = e.bodies.size
  current : e.frame.generation = e.generation

theorem Aligned.springs {e : Engine α} (aligned : e.Aligned) : ∀ l ∈ e.springs,
    l.source < e.bodies.size ∧ l.target < e.bodies.size ∧ l.source ≠ l.target := by
  intro l member
  unfold Engine.springs at member
  split at member
  · rename_i s present
    rw [bodies, present]
    exact (aligned.simulation s present).springs l member
  · cases member

theorem Aligned.index {e : Engine α} (aligned : e.Aligned) (id : String) (i : Nat) :
    e.indexOf? id = some i ↔ ∃ b, e.bodies[i]? = some b ∧ b.id = id := by
  unfold indexOf? bodies
  cases present : e.simulation with
  | none => simp
  | some s =>
    rw [Option.bind_some, (aligned.simulation s present).index id i]
    simp [idsOf]

theorem Aligned.position {e : Engine α} (aligned : e.Aligned) {i : Nat}
    (inside : i < e.bodies.size) : ∃ p, e.frame.positions[i]? = some p :=
  ⟨_, Array.getElem?_eq_getElem (aligned.published ▸ inside)⟩

/-- What every operation but a new start does: bodies, springs and index stay, and the frame stays
or is published anew. -/
structure Keeps (e f : Engine α) : Prop where
  generation : f.generation = e.generation
  structureKey : f.structureKey = e.structureKey
  simulation : Option.Rel Simulation.Alike e.simulation f.simulation
  frame : f.frame = e.frame ∨ ∃ tick, f.frame = (f.publish tick).frame

theorem publish_size (e : Engine α) (tick : UInt64) :
    (e.publish tick).frame.positions.size = e.bodies.size := by
  simp [publish]

theorem Keeps.size {e f : Engine α} (keeps : e.Keeps f) : f.bodies.size = e.bodies.size := by
  have related := keeps.simulation
  unfold bodies
  generalize e.simulation = before, f.simulation = after at related
  cases related with
  | none => rfl
  | some alike => exact alike.size

theorem Keeps.aligned {e f : Engine α} (keeps : e.Keeps f) (aligned : e.Aligned) :
    f.Aligned := by
  refine ⟨?_, ?_, ?_⟩
  · intro t present
    -- a simulation that is there now was there before, so it is not a new one
    have related := keeps.simulation
    rw [present] at related
    generalize before : e.simulation = o at related
    cases related with
    | some alike => exact alike.aligned (aligned.simulation _ before)
  · rcases keeps.frame with same | ⟨tick, new⟩
    · rw [same, keeps.size]
      exact aligned.published
    · rw [new, publish_size]
  · rcases keeps.frame with same | ⟨tick, new⟩
    · rw [same, keeps.generation]
      exact aligned.current
    · rw [new]
      rfl

theorem alike_map {o : Option (Simulation α)} {f : Simulation α → Simulation α}
    (alike : ∀ s : Simulation α, s.Alike (f s)) : Option.Rel Simulation.Alike o (o.map f) := by
  cases o with
  | none => exact .none
  | some s => exact .some (alike s)

theorem keeps_refl (e : Engine α) : e.Keeps e :=
  ⟨rfl, rfl, by simpa using alike_map (o := e.simulation) Simulation.alike_refl, Or.inl rfl⟩

theorem dragTo_keeps (e : Engine α) (id : String) (world : Vec α) :
    e.Keeps (e.dragTo id world) := by
  refine ⟨rfl, rfl, alike_map ?_, Or.inl rfl⟩
  intro s
  apply s.modify_alike
  intro b
  split <;> rfl

end Engine

variable [Scalar α]

/-! ### A new start -/

theorem numbered_find {nodes : List Node} (distinct : (nodes.map (·.id)).Nodup) {id : String}
    {i : Nat} : (numbered nodes).find? id = some i ↔ (nodes.map (·.id))[i]? = some id := by
  have keys : (nodes.mapIdx fun i n => (n.id, i)).map (·.1) = nodes.map (·.id) := by
    apply List.ext_getElem
    · simp
    · intro i _ _
      simp
  -- with distinct identities no later entry replaces an earlier one
  rw [numbered, Dict.find_ofList (keys ▸ distinct)]
  simp only [List.mem_mapIdx, Prod.mk.injEq, List.getElem?_map, Option.map_eq_some_iff,
    List.getElem?_eq_some_iff]
  constructor
  · rintro ⟨j, inside, named, place⟩
    subst place
    exact ⟨nodes[j], ⟨inside, rfl⟩, named⟩
  · rintro ⟨n, ⟨inside, eq⟩, named⟩
    exact ⟨i, inside, by rw [eq, named], rfl⟩

theorem mem_springsOf {index : Dict Nat} {links : List Link} {s : Spring}
    (member : s ∈ springsOf index links) :
    ∃ l ∈ links, index.find? l.source.id = some s.source ∧
      index.find? l.target.id = some s.target ∧ s.source ≠ s.target := by
  obtain ⟨l, linked, made⟩ := List.mem_filterMap.mp member
  simp only [Option.bind_eq_bind, Option.bind_eq_some_iff, Option.ite_none_left_eq_some,
    Option.some.injEq] at made
  obtain ⟨source, fromSource, target, fromTarget, different, eq⟩ := made
  subst eq
  exact ⟨l, linked, fromSource, fromTarget, different⟩

theorem start_outline (v : View) (center : Vec α) (before : Array (Body α)) :
    outlineOf (Simulation.start v center before).bodies =
      (v.nodes.map fun n => (n.id, n.kind)).toArray := by
  apply Array.ext
  · simp [outlineOf, Simulation.start]
  · intro i _ _
    simp only [outlineOf, Simulation.start, Array.getElem_map, List.getElem_toArray,
      List.getElem_mapIdx, List.getElem_map]
    split <;> rfl

theorem start_ids (v : View) (center : Vec α) (before : Array (Body α)) :
    idsOf (Simulation.start v center before).bodies = (v.nodes.map (·.id)).toArray := by
  simp [idsOf_eq, start_outline, Function.comp_def]

theorem start_aligned {v : View} (distinct : (v.nodes.map (·.id)).Nodup) (center : Vec α)
    (before : Array (Body α)) : (Simulation.start v center before).Aligned := by
  have numbers : ∀ id i, (numbered v.nodes).find? id = some i ↔
      (idsOf (Simulation.start v center before).bodies)[i]? = some id := by
    intro id i
    rw [start_ids, List.getElem?_toArray]
    exact numbered_find distinct
  have inside : ∀ id i, (numbered v.nodes).find? id = some i →
      i < (Simulation.start v center before).bodies.size := by
    intro id i found
    obtain ⟨bound, _⟩ := Array.getElem?_eq_some_iff.mp ((numbers id i).mp found)
    simpa [idsOf] using bound
  refine ⟨?_, numbers⟩
  intro s member
  obtain ⟨l, _, source, target, different⟩ := mem_springsOf member
  exact ⟨inside _ _ source, inside _ _ target, different⟩

namespace Engine

theorem beginDrag_keeps (e : Engine α) (id : String) (world : Vec α) :
    e.Keeps (e.beginDrag id world).1 := by
  unfold beginDrag
  split
  · rename_i s present
    split
    · refine ⟨rfl, rfl, ?_, Or.inr ⟨_, rfl⟩⟩
      have alike := s.modify_alike id (f := fun b =>
        { b with pin := some world, position := world, velocity := Vec.zero }) fun _ => rfl
      simpa [publish, present] using Option.Rel.some ⟨alike.outline, alike.springs, alike.index⟩
    · exact keeps_refl e
  · exact keeps_refl e

theorem endDrag_keeps (e : Engine α) (id : String) : e.Keeps (e.endDrag id) := by
  refine ⟨rfl, rfl, alike_map ?_, Or.inl rfl⟩
  intro s
  have alike := s.modify_alike id (f := fun b => { b with pin := none }) fun _ => rfl
  dsimp only
  split
  · exact alike
  · exact ⟨alike.outline, alike.springs, alike.index⟩

theorem step_keeps (e : Engine α) (seconds : α) : e.Keeps (e.step seconds).1 := by
  unfold step
  split
  · rename_i s present
    split
    · dsimp only
      split
      · exact ⟨rfl, rfl, by rw [present]; exact .some ⟨rfl, rfl, rfl⟩, Or.inl rfl⟩
      · refine ⟨rfl, rfl, ?_, Or.inr ⟨_, rfl⟩⟩
        rw [present]
        exact .some ⟨advance_same (fun _ _ _ => rfl) _ _ _ _ _ _, rfl, rfl⟩
    · exact keeps_refl e
  · exact keeps_refl e

theorem reheat_keeps (e : Engine α) (alpha : α) : e.Keeps (e.reheat alpha) :=
  ⟨rfl, rfl, alike_map fun _ => ⟨rfl, rfl, rfl⟩, Or.inl rfl⟩

theorem sync_aligned {e : Engine α} (aligned : e.Aligned) {v : View}
    (distinct : (v.nodes.map (·.id)).Nodup) (viewport : Vec α) :
    (e.sync v viewport).1.Aligned := by
  unfold sync
  split
  · exact aligned
  · -- the frame is published in the same step, under the new number
    refine ⟨?_, publish_size _ 0, rfl⟩
    intro s present
    cases present
    exact start_aligned distinct _ _

/-! ### Runs -/

/-- What can be done to a layout from outside. What is laid out is a view of a graph. -/
inductive Action (α : Type) where
  | sync (g : Snapshot) (wf : g.WellFormed) (criteria : Criteria) (viewport : Vec α)
  | step (seconds : α)
  | beginDrag (id : String) (world : Vec α)
  | dragTo (id : String) (world : Vec α)
  | endDrag (id : String)
  | reheat (alpha : α)
  | stop
  | setTuning (tuning : Tuning α)

def perform (e : Engine α) : Action α → Engine α
  | .sync g _ criteria viewport => (e.sync (View.of g criteria) viewport).1
  | .step seconds => (e.step seconds).1
  | .beginDrag id world => (e.beginDrag id world).1
  | .dragTo id world => e.dragTo id world
  | .endDrag id => e.endDrag id
  | .reheat alpha => e.reheat alpha
  | .stop => e.stop
  | .setTuning tuning => e.setTuning tuning

def run (e : Engine α) (actions : List (Action α)) : Engine α := actions.foldl perform e

theorem new_aligned (tuning : Tuning α) : (new tuning).Aligned where
  simulation := by intro s present; cases present
  published := rfl
  current := rfl

theorem perform_aligned {e : Engine α} (aligned : e.Aligned) (action : Action α) :
    (e.perform action).Aligned := by
  cases action with
  | sync g wf criteria viewport =>
    exact sync_aligned aligned (View.distinct_ids wf criteria) viewport
  | step seconds => exact (step_keeps e seconds).aligned aligned
  | beginDrag id world => exact (beginDrag_keeps e id world).aligned aligned
  | dragTo id world => exact (dragTo_keeps e id world).aligned aligned
  | endDrag id => exact (endDrag_keeps e id).aligned aligned
  | reheat alpha => exact (reheat_keeps e alpha).aligned aligned
  | stop =>
    have keeps : e.Keeps e.stop := ⟨rfl, rfl, alike_map fun _ => ⟨rfl, rfl, rfl⟩, Or.inl rfl⟩
    exact keeps.aligned aligned
  | setTuning tuning => exact ⟨aligned.simulation, aligned.published, aligned.current⟩

theorem run_aligned {e : Engine α} (aligned : e.Aligned) (actions : List (Action α)) :
    (e.run actions).Aligned := by
  induction actions generalizing e with
  | nil => exact aligned
  | cons action rest ih => exact ih (perform_aligned aligned action)

end Engine

end Layout

structure Scene.Shows (scene : Scene) (e : Layout.Engine Float32) (h : Highlight)
    (transform : Transform Float32) : Prop where
  dots : ∀ (i : Nat) (b : Layout.Body Float32), e.bodies[i]? = some b →
    ∃ p, e.frame.positions[i]? = some p ∧
      scene.dots[i]?.map (fun d => (d.id, d.center)) = some (b.id, transform.toScreen Vec.zero p)
  strokes : ∀ (k : Nat) (l : Layout.Spring), e.springs[k]? = some l →
    ∃ a b p q, e.bodies[l.source]? = some a ∧ e.bodies[l.target]? = some b ∧
      e.frame.positions[l.source]? = some p ∧ e.frame.positions[l.target]? = some q ∧
      scene.strokes[k]? = some
        { start := transform.toScreen Vec.zero p
          stop := transform.toScreen Vec.zero q
          kind := l.kind
          emphasis := h.emphasisBetween a.id b.id l.kind }

theorem capture_shows {e : Layout.Engine Float32} (aligned : e.Aligned) (g : Snapshot)
    (h : Highlight) (selected : Option String) (transform : Transform Float32)
    (viewport : Vec Float32) :
    (Scene.capture e g h selected transform viewport).Shows e h transform := by
  constructor
  · intro i b present
    obtain ⟨inside, _⟩ := Array.getElem?_eq_some_iff.mp present
    obtain ⟨p, published⟩ := aligned.position inside
    refine ⟨p, published, ?_⟩
    simp [Scene.capture, present, published]
  · intro k l present
    obtain ⟨source, target, _⟩ := aligned.springs l (List.mem_of_getElem? present)
    obtain ⟨p, atSource⟩ := aligned.position source
    obtain ⟨q, atTarget⟩ := aligned.position target
    refine ⟨e.bodies[l.source], e.bodies[l.target], p, q, Array.getElem?_eq_getElem source,
      Array.getElem?_eq_getElem target, atSource, atTarget, ?_⟩
    simp [Scene.capture, present, atSource, atTarget, source, target]

namespace Layout.Engine

/-- Whatever was done to a layout since it was new: springs join two different bodies, the index
holds exactly the identities of the bodies, each with its place, a position is published for each
body under the number of the present start, and so neither a step of the physics nor a picture
looks for a body or a position that is not there. -/
theorem run_numbers_in_range (tuning : Tuning Float32) (actions : List (Action Float32)) :
    let e := (new tuning).run actions
    (∀ l ∈ e.springs,
      l.source < e.bodies.size ∧ l.target < e.bodies.size ∧ l.source ≠ l.target) ∧
      (∀ id i, e.indexOf? id = some i ↔ ∃ b, e.bodies[i]? = some b ∧ b.id = id) ∧
      e.frame.positions.size = e.bodies.size ∧
      e.frame.generation = e.generation ∧
      (Field.ofBodies e.bodies).InRange e.springs ∧
      ∀ g h selected transform viewport,
        (Scene.capture e g h selected transform viewport).Shows e h transform := by
  intro e
  have aligned : e.Aligned := run_aligned (new_aligned tuning) actions
  have inRange : (Field.ofBodies e.bodies).InRange e.springs := by
    apply Field.ofBodies_inRange
    intro l member
    obtain ⟨source, target, _⟩ := aligned.springs l member
    exact ⟨source, target⟩
  exact ⟨aligned.springs, aligned.index, aligned.published, aligned.current, inRange,
    capture_shows aligned⟩

end Layout.Engine

end CodeAtlas
