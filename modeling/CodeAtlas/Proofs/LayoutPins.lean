import CodeAtlas.Proofs.LayoutRuns
import Mathlib.Data.List.Nodup

/-!
Which bodies of a layout are pinned. A drag that takes hold pins one body more, its end frees one, and
a new start carries pins over to the bodies that stay. Nothing else changes a pin.
-/
namespace CodeAtlas

namespace Layout

variable {α : Type}

/-- What a pin is about: which body, and whether it has one. -/
def Body.grip (b : Body α) : String × Bool := (b.id, b.isPinned)

def Engine.pinned (e : Engine α) : List String := (e.bodies.toList.filter Body.isPinned).map (·.id)

namespace Simulation

theorem Aligned.place {s : Simulation α} (aligned : s.Aligned) {i : Nat}
    (inside : i < s.bodies.size) {id : String} :
    s.indexOf? id = some i ↔ s.bodies[i].id = id := by
  rw [aligned.index id i]
  simp [idsOf, inside]

/-- With each identity at one place only, a change of the body there is one of all bodies with that
identity. -/
theorem Aligned.modify_bodies {s : Simulation α} (aligned : s.Aligned) (id : String)
    (f : Body α → Body α) :
    (s.modify id f).bodies = s.bodies.map fun b => if b.id = id then f b else b := by
  unfold modify
  split
  · rename_i i found
    apply Array.ext
    · simp
    · intro j _ inside
      have inside : j < s.bodies.size := by simpa using inside
      have here : i = j ↔ s.bodies[j].id = id := by
        rw [← aligned.place inside, found, Option.some.injEq]
      simp only [Array.getElem_modify, Array.getElem_map, here]
  · rename_i missing
    apply Array.ext
    · simp
    · intro j inside _
      have other : s.bodies[j].id ≠ id := by
        intro named
        have found := (aligned.place inside).mpr named
        rw [missing] at found
        cases found
      simp only [Array.getElem_map, if_neg other]

theorem Aligned.distinct {s : Simulation α} (aligned : s.Aligned) :
    (s.bodies.toList.map (·.id)).Nodup := by
  refine List.pairwise_iff_getElem.mpr ?_
  intro i j first second before same
  have first : i < s.bodies.size := by simpa using first
  have second : j < s.bodies.size := by simpa using second
  simp only [List.getElem_map, Array.getElem_toList] at same
  have found := (aligned.place first).mpr same
  rw [(aligned.place second).mpr rfl, Option.some.injEq] at found
  omega

end Simulation

namespace Engine

theorem mem_pinned {e : Engine α} {id : String} :
    id ∈ e.pinned ↔ ∃ b ∈ e.bodies.toList, b.isPinned = true ∧ b.id = id := by
  simp [pinned, and_assoc]

theorem mem_pinned_grips {e : Engine α} {id : String} :
    id ∈ e.pinned ↔ (id, true) ∈ e.bodies.toList.map Body.grip := by
  simp [mem_pinned, Body.grip, and_comm]

theorem pinned_of_grips {e f : Engine α} (same : f.bodies.map Body.grip = e.bodies.map Body.grip) :
    f.pinned = e.pinned := by
  have read (e : Engine α) :
      e.pinned = ((e.bodies.map Body.grip).toList.filter (·.2)).map (·.1) := by
    simp [pinned, Body.grip, List.filter_map, Function.comp_def]
  rw [read, read, same]

theorem Aligned.distinct {e : Engine α} (aligned : e.Aligned) :
    (e.bodies.toList.map (·.id)).Nodup := by
  unfold bodies
  split
  · rename_i s present
    exact (aligned.simulation s present).distinct
  · exact List.nodup_nil

theorem Aligned.pinned_nodup {e : Engine α} (aligned : e.Aligned) : e.pinned.Nodup :=
  aligned.distinct.sublist (List.filter_sublist.map _)

theorem Aligned.indexed {e : Engine α} (aligned : e.Aligned) {id : String} :
    (e.indexOf? id).isSome = true ↔ ∃ b ∈ e.bodies.toList, b.id = id := by
  rw [Option.isSome_iff_exists]
  constructor
  · rintro ⟨i, found⟩
    obtain ⟨b, there, named⟩ := (aligned.index id i).mp found
    exact ⟨b, by simpa using Array.mem_of_getElem? there, named⟩
  · rintro ⟨b, member, named⟩
    obtain ⟨i, there⟩ := List.getElem?_of_mem member
    exact ⟨i, (aligned.index id i).mpr ⟨b, by simpa using there, named⟩⟩

theorem Aligned.pinned_indexed {e : Engine α} (aligned : e.Aligned) {id : String}
    (pinned : id ∈ e.pinned) : (e.indexOf? id).isSome = true := by
  obtain ⟨b, member, _, named⟩ := mem_pinned.mp pinned
  exact aligned.indexed.mpr ⟨b, member, named⟩

theorem Aligned.find_body {e : Engine α} (aligned : e.Aligned) {id : String} {b : Body α} :
    e.bodies.find? (·.id = id) = some b ↔ b ∈ e.bodies.toList ∧ b.id = id := by
  have holds {c : Body α} (found : e.bodies.find? (·.id = id) = some c) :
      c ∈ e.bodies.toList ∧ c.id = id :=
    ⟨by simpa using Array.mem_of_find?_eq_some found, by simpa using Array.find?_some found⟩
  refine ⟨holds, ?_⟩
  rintro ⟨member, named⟩
  cases found : e.bodies.find? (·.id = id) with
  | none =>
    have none := Array.find?_eq_none.mp found b (by simpa using member)
    simp [named] at none
  | some c =>
    obtain ⟨there, first⟩ := holds found
    rw [List.inj_on_of_nodup_map aligned.distinct there member (first.trans named.symm)]

theorem Aligned.mem_pinned_iff_find {e : Engine α} (aligned : e.Aligned) {id : String} :
    id ∈ e.pinned ↔ (e.bodies.find? (·.id = id)).any Body.isPinned = true := by
  rw [mem_pinned]
  constructor
  · rintro ⟨b, member, pinned, named⟩
    rw [aligned.find_body.mpr ⟨member, named⟩]
    exact pinned
  · intro pinned
    cases found : e.bodies.find? (·.id = id) with
    | none => simp [found] at pinned
    | some b =>
      obtain ⟨member, named⟩ := aligned.find_body.mp found
      exact ⟨b, member, by simpa [found] using pinned, named⟩

theorem Aligned.bodies_of_modify {e f : Engine α} (aligned : e.Aligned) {id : String}
    {g : Body α → Body α}
    (changed : f.simulation.map (·.bodies) = e.simulation.map fun s => (s.modify id g).bodies) :
    f.bodies = e.bodies.map fun b => if b.id = id then g b else b := by
  unfold Engine.bodies
  cases present : e.simulation with
  | none =>
    rw [present, Option.map_none, Option.map_eq_none_iff] at changed
    simp [changed]
  | some s =>
    rw [present, Option.map_some, Option.map_eq_some_iff] at changed
    obtain ⟨t, after, same⟩ := changed
    rw [after]
    exact same.trans ((aligned.simulation s present).modify_bodies id g)

theorem Aligned.dragTo_pinned {e : Engine α} (aligned : e.Aligned) (id : String) (world : Vec α) :
    (e.dragTo id world).pinned = e.pinned := by
  apply pinned_of_grips
  rw [aligned.bodies_of_modify (f := e.dragTo id world) (by rw [dragTo, Option.map_map]; rfl),
    Array.map_map]
  apply Array.map_congr_left
  intro b _
  simp only [Function.comp_apply]
  split
  · split
    · rename_i pinned
      exact congrArg (Prod.mk b.id) pinned.symm
    · rfl
  · rfl

end Engine

variable [Scalar α]

/-! ### What a drag does to the pins -/

namespace Engine

theorem Aligned.mem_pinned_endDrag {e : Engine α} (aligned : e.Aligned) (id other : String) :
    other ∈ (e.endDrag id).pinned ↔ other ∈ e.pinned ∧ other ≠ id := by
  have bodies : (e.endDrag id).bodies =
      e.bodies.map fun b => if b.id = id then { b with pin := none } else b := by
    apply aligned.bodies_of_modify
    rw [endDrag, Option.map_map]
    congr 1
    funext s
    simp only [Function.comp_apply]
    split <;> rfl
  simp only [mem_pinned, bodies, Array.toList_map, List.mem_map]
  constructor
  · rintro ⟨_, ⟨b, member, rfl⟩, pinned, named⟩
    split at pinned
    · cases pinned
    · rename_i different
      rw [if_neg different] at named
      exact ⟨⟨b, member, pinned, named⟩, named ▸ different⟩
  · rintro ⟨⟨b, member, pinned, named⟩, different⟩
    refine ⟨b, ⟨b, member, if_neg ?_⟩, pinned, named⟩
    rw [named]
    exact different

theorem beginDrag_modifies {e : Engine α} {id : String} {world : Vec α}
    (held : (e.beginDrag id world).2 = true) :
    (e.indexOf? id).isSome = true ∧
      (e.beginDrag id world).1.simulation.map (·.bodies) = e.simulation.map fun s =>
        (s.modify id fun b =>
          { b with pin := some world, position := world, velocity := Vec.zero }).bodies := by
  unfold beginDrag at held ⊢
  cases present : e.simulation with
  | none =>
    rw [present] at held
    cases held
  | some s =>
    cases known : (s.indexOf? id).isSome with
    | false => simp [present, known] at held
    | true =>
      simp only [known, ↓reduceIte]
      exact ⟨by simp [indexOf?, present, known], rfl⟩

theorem beginDrag_held {e : Engine α} {id : String} (known : (e.indexOf? id).isSome = true)
    (world : Vec α) : (e.beginDrag id world).2 = true := by
  unfold beginDrag
  cases present : e.simulation with
  | none => simp [indexOf?, present] at known
  | some s =>
    have known : (s.indexOf? id).isSome = true := by simpa [indexOf?, present] using known
    simp [known]

theorem Aligned.mem_pinned_beginDrag {e : Engine α} (aligned : e.Aligned) {id : String}
    {world : Vec α} (held : (e.beginDrag id world).2 = true) (other : String) :
    other ∈ (e.beginDrag id world).1.pinned ↔ other ∈ e.pinned ∨ other = id := by
  obtain ⟨known, changed⟩ := beginDrag_modifies held
  simp only [mem_pinned, aligned.bodies_of_modify changed, Array.toList_map, List.mem_map]
  constructor
  · rintro ⟨_, ⟨b, member, rfl⟩, pinned, named⟩
    by_cases seized : b.id = id
    · rw [if_pos seized] at named
      exact Or.inr (named.symm.trans seized)
    · rw [if_neg seized] at pinned named
      exact Or.inl ⟨b, member, pinned, named⟩
  · rintro (⟨b, member, pinned, named⟩ | rfl)
    · refine ⟨_, ⟨b, member, rfl⟩, ?_⟩
      split
      · exact ⟨rfl, named⟩
      · exact ⟨pinned, named⟩
    · obtain ⟨b, member, named⟩ := aligned.indexed.mp known
      exact ⟨_, ⟨b, member, if_pos named⟩, rfl, named⟩

theorem step_pinned (e : Engine α) (seconds : α) : (e.step seconds).1.pinned = e.pinned := by
  apply pinned_of_grips
  unfold step
  split
  · rename_i s present
    split
    · dsimp only
      split
      · simp [bodies, present]
      · simp only [bodies, publish, present]
        exact advance_same (fun _ _ _ => rfl) _ _ _ _ _ _
    · rfl
  · rfl

theorem reheat_pinned (e : Engine α) (alpha : α) : (e.reheat alpha).pinned = e.pinned := by
  apply pinned_of_grips
  unfold reheat bodies
  cases e.simulation <;> rfl

end Engine

/-! ### What a new start does to the pins -/

def priors (v : View) (before : Array (Body α)) : Array (Option (Body α)) :=
  (v.nodes.map fun n => before.find? (·.id = n.id)).toArray

omit [Scalar α] in
theorem priors_getD (v : View) (before : Array (Body α)) (i : Nat) :
    (priors v before).getD i none = (v.nodes[i]?).bind fun n => before.find? (·.id = n.id) := by
  cases node : v.nodes[i]? <;> simp [priors, node]

theorem start_grips (v : View) (center : Vec α) (before : Array (Body α)) :
    (Simulation.start v center before).bodies.toList.map Body.grip =
      v.nodes.map fun n => (n.id, (before.find? (·.id = n.id)).any Body.isPinned) := by
  apply List.ext_getElem
  · simp [Simulation.start]
  · intro i inside known
    have known : i < v.nodes.length := by simpa using known
    have prior : (priors v before).getD i none = before.find? (·.id = v.nodes[i].id) := by
      rw [priors_getD, List.getElem?_eq_getElem known, Option.bind_some]
    rw [priors] at prior
    simp only [Simulation.start, List.getElem_map, List.getElem_mapIdx, prior]
    cases before.find? (·.id = v.nodes[i].id) <;> rfl

namespace Engine

theorem Aligned.mem_pinned_sync {e : Engine α} (aligned : e.Aligned) {v : View}
    (distinct : (v.nodes.map (·.id)).Nodup) (viewport : Vec α) (id : String) :
    id ∈ (e.sync v viewport).1.pinned ↔
      id ∈ e.pinned ∧ ((e.sync v viewport).1.indexOf? id).isSome = true := by
  have after : (e.sync v viewport).1.Aligned := sync_aligned aligned distinct viewport
  have known : ((e.sync v viewport).1.indexOf? id).isSome = true ↔
      ∃ pin, (id, pin) ∈ (e.sync v viewport).1.bodies.toList.map Body.grip := by
    rw [after.indexed]
    constructor
    · rintro ⟨b, member, rfl⟩
      exact ⟨b.isPinned, List.mem_map.mpr ⟨b, member, rfl⟩⟩
    · rintro ⟨pin, member⟩
      obtain ⟨b, there, same⟩ := List.mem_map.mp member
      exact ⟨b, there, congrArg Prod.fst same⟩
  cases same : e.isFor v viewport with
  | true =>
    have kept : (e.sync v viewport).1 = e := by simp [sync, same]
    rw [kept]
    exact ⟨fun pinned => ⟨pinned, aligned.pinned_indexed pinned⟩, And.left⟩
  | false =>
    have started : (e.sync v viewport).1.bodies.toList.map Body.grip =
        v.nodes.map fun n => (n.id, (e.bodies.find? (·.id = n.id)).any Body.isPinned) := by
      simp only [sync, same]
      exact start_grips v _ e.bodies
    rw [known, mem_pinned_grips, started, aligned.mem_pinned_iff_find]
    simp only [List.mem_map, Prod.mk.injEq]
    constructor
    · rintro ⟨n, member, rfl, pinned⟩
      exact ⟨pinned, _, n, member, rfl, rfl⟩
    · rintro ⟨pinned, _, n, member, rfl, _⟩
      exact ⟨n, member, rfl, pinned⟩

end Engine

end Layout

end CodeAtlas
