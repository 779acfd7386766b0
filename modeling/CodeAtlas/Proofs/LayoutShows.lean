import CodeAtlas.Proofs.LayoutRuns

/-!
What a layout shows of a view: its nodes in their order, by identity and kind, and its links in
their order, by their keys, without loops. A new start shows the view that it is made for, and every
other operation leaves what is shown.
-/
namespace CodeAtlas

namespace Layout

variable {α : Type}

namespace Engine

def keyOf? (e : Engine α) (s : Spring) : Option LinkKey := do
  let source ← e.bodies[s.source]?
  let target ← e.bodies[s.target]?
  return ⟨source.id, target.id, s.kind⟩

structure Shows (e : Engine α) (v : View) : Prop where
  nodes : (e.bodies.toList.map fun b => (b.id, b.kind)) = v.nodes.map fun n => (n.id, n.kind)
  links : e.springs.map e.keyOf? =
    ((v.links.map Link.key).filter fun k => k.source ≠ k.target).map some

theorem Shows.of_shape {e : Engine α} {v w : View} (shows : e.Shows v) (same : w.shape = v.shape) :
    e.Shows w := by
  obtain ⟨nodes, links⟩ := Prod.mk.inj same
  exact ⟨by rw [shows.nodes, nodes], by rw [shows.links, links]⟩

structure Resembles (e f : Engine α) : Prop where
  outline : outlineOf f.bodies = outlineOf e.bodies
  springs : f.springs = e.springs

theorem keyOf_ids (e : Engine α) (s : Spring) : e.keyOf? s =
    ((idsOf e.bodies)[s.source]?).bind fun source =>
      ((idsOf e.bodies)[s.target]?).map fun target => ⟨source, target, s.kind⟩ := by
  cases source : e.bodies[s.source]? <;> cases target : e.bodies[s.target]? <;>
    simp [keyOf?, idsOf, source, target]

theorem Resembles.shows {e f : Engine α} (resembles : e.Resembles f) {v : View}
    (shows : e.Shows v) : f.Shows v := by
  have listed (e : Engine α) :
      (e.bodies.toList.map fun b => (b.id, b.kind)) = (outlineOf e.bodies).toList := by
    simp [outlineOf]
  constructor
  · rw [listed, resembles.outline, ← listed, shows.nodes]
  · rw [resembles.springs, ← shows.links]
    apply List.map_congr_left
    intro s _
    rw [keyOf_ids, keyOf_ids, idsOf_eq, idsOf_eq, resembles.outline]

theorem resembles_refl (e : Engine α) : e.Resembles e := ⟨rfl, rfl⟩

theorem Resembles.trans {e f g : Engine α} (first : e.Resembles f) (second : f.Resembles g) :
    e.Resembles g :=
  ⟨second.outline.trans first.outline, second.springs.trans first.springs⟩

theorem Keeps.resembles {e f : Engine α} (keeps : e.Keeps f) : e.Resembles f := by
  have related := keeps.simulation
  constructor
  · unfold bodies
    generalize e.simulation = before, f.simulation = after at related
    cases related with
    | none => rfl
    | some alike => exact alike.outline
  · unfold Engine.springs
    generalize e.simulation = before, f.simulation = after at related
    cases related with
    | none => rfl
    | some alike => exact alike.springs

end Engine

variable [Scalar α]

theorem springsOf_keys {nodes : List Node} (distinct : (nodes.map (·.id)).Nodup)
    {links : List Link} (joined : ∀ l ∈ links,
      l.source.id ∈ nodes.map (·.id) ∧ l.target.id ∈ nodes.map (·.id)) :
    ((springsOf (numbered nodes) links).map fun s =>
        ((nodes.map (·.id))[s.source]?).bind fun source =>
          ((nodes.map (·.id))[s.target]?).map fun target => (⟨source, target, s.kind⟩ : LinkKey)) =
      ((links.map Link.key).filter fun k => k.source ≠ k.target).map some := by
  induction links with
  | nil => rfl
  | cons l rest ih =>
    obtain ⟨source, target⟩ := joined l List.mem_cons_self
    obtain ⟨i, atSource⟩ := List.getElem?_of_mem source
    obtain ⟨j, atTarget⟩ := List.getElem?_of_mem target
    have others := ih fun m member => joined m (List.mem_cons_of_mem l member)
    have foundSource := (numbered_find distinct).mpr atSource
    have foundTarget := (numbered_find distinct).mpr atTarget
    by_cases loop : l.source.id = l.target.id
    · have same : i = j := by
        rw [loop, foundTarget] at foundSource
        exact (Option.some.inj foundSource).symm
      have skipped : springsOf (numbered nodes) (l :: rest) = springsOf (numbered nodes) rest := by
        simp [springsOf, foundSource, foundTarget, same]
      rw [skipped, others]
      simp [Link.key, loop]
    · have different : i ≠ j := by
        rintro rfl
        exact loop (Option.some.inj (atSource.symm.trans atTarget))
      have made : springsOf (numbered nodes) (l :: rest) =
          ⟨i, j, l.kind⟩ :: springsOf (numbered nodes) rest := by
        simp [springsOf, foundSource, foundTarget, different]
      rw [made, List.map_cons, others, atSource, atTarget]
      simp [Link.key, loop]

namespace Engine

theorem start_shows {g : Snapshot} (wf : g.WellFormed) (c : Criteria) (center : Vec α)
    {e : Engine α} {before : Array (Body α)}
    (started : e.simulation = some (Simulation.start (View.of g c) center before)) :
    e.Shows (View.of g c) := by
  have ids := start_ids (View.of g c) center before
  have outline := start_outline (View.of g c) center before
  constructor
  · rw [bodies, started]
    simpa [outlineOf] using congrArg Array.toList outline
  · have keys := springsOf_keys (View.distinct_ids wf c) fun l member => View.ends_shown member
    rw [← keys]
    have springs : e.springs =
        springsOf (numbered (View.of g c).nodes) (View.of g c).links := by
      rw [Engine.springs, started]
      rfl
    rw [springs]
    apply List.map_congr_left
    intro s _
    rw [keyOf_ids, bodies, started]
    simp only [ids, List.getElem?_toArray]

theorem sync_structureKey (e : Engine α) (v : View) (viewport : Vec α) :
    (e.sync v viewport).1.structureKey = some v.fingerprint := by
  unfold sync
  split
  · rename_i known
    simp only [isFor, Bool.and_eq_true, beq_iff_eq] at known
    exact known.1.1
  · rfl

theorem sync_shows {e : Engine α} {g : Snapshot} (wf : g.WellFormed) (c : Criteria)
    (viewport : Vec α)
    (known : e.structureKey = some (View.of g c).fingerprint → e.Shows (View.of g c)) :
    (e.sync (View.of g c) viewport).1.Shows (View.of g c) := by
  unfold sync
  split
  · rename_i kept
    simp only [isFor, Bool.and_eq_true, beq_iff_eq] at kept
    exact known kept.1.1
  · exact start_shows wf c _ rfl

end Engine

end Layout

end CodeAtlas
