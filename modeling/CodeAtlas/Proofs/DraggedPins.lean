import CodeAtlas.Proofs.LayoutPins
import CodeAtlas.Proofs.ViewerRuns

/-!
Pins and the drag that they belong to. The layout holds the pins and the viewer the node that is
dragged; a new graph, other criteria or another viewport may renew the layout in the middle of a
drag. Through all this the bodies that are pinned are just the one that is dragged.
-/
namespace CodeAtlas

namespace Viewer

/-! ### What leaves pins and drag alone -/

/-- Neither the drag nor a pin changes, and a sound graph and layout stay sound. -/
structure Calm (v w : Viewer) : Prop where
  wellFormed : v.snapshot.WellFormed → w.snapshot.WellFormed
  aligned : v.engine.Aligned → w.engine.Aligned
  pinned : w.engine.pinned = v.engine.pinned
  dragging : w.dragging = v.dragging

theorem Calm.trans {u v w : Viewer} (first : u.Calm v) (second : v.Calm w) : u.Calm w where
  wellFormed := fun wf => second.wellFormed (first.wellFormed wf)
  aligned := fun aligned => second.aligned (first.aligned aligned)
  pinned := second.pinned.trans first.pinned
  dragging := second.dragging.trans first.dragging

theorem calm_refl (v : Viewer) : v.Calm v := ⟨id, id, rfl, rfl⟩

theorem calm_of_steady {v w : Viewer} {shown : View} (steady : v.Steady shown w)
    (engine : w.engine = v.engine) (dragging : w.dragging = v.dragging) : v.Calm w where
  wellFormed := steady.store.wellFormed
  aligned := fun aligned => engine ▸ aligned
  pinned := congrArg Layout.Engine.pinned engine
  dragging := dragging

theorem act_calm {v : Viewer} {action : Session → Session.Result}
    (store : Store.Revised 0 v.session.store (action v.session).1.store) : v.Calm (v.act action) :=
  calm_of_steady (act_steady ⟨[], []⟩ store) rfl rfl

theorem perform_calm (v : Viewer) (a : Session.Action) : v.Calm (v.act (·.perform a)) :=
  act_calm (Session.perform_revised v.session a)

theorem selectAndCenter_keeps (id : String) (now : Float) (v : Viewer) :
    (v.selectAndCenter id now).engine = v.engine ∧
      (v.selectAndCenter id now).dragging = v.dragging := by
  unfold selectAndCenter
  dsimp only
  split <;> exact ⟨rfl, rfl⟩

theorem selectAndCenter_calm (id : String) (now : Float) (v : Viewer) :
    v.Calm (v.selectAndCenter id now) := by
  obtain ⟨engine, dragging⟩ := selectAndCenter_keeps id now v
  exact calm_of_steady (selectAndCenter_steady ⟨[], []⟩ id now v) engine dragging

theorem reheat_calm (alpha : Float32) (v : Viewer) :
    v.Calm { v with engine := v.engine.reheat alpha } where
  wellFormed := id
  aligned := (v.engine.reheat_keeps alpha).aligned
  pinned := v.engine.reheat_pinned alpha
  dragging := rfl

theorem use_calm (c : Control) (now : Float) (v : Viewer) : v.Calm (v.use c now) := by
  have steady := use_steady ⟨[], []⟩ c now v
  cases c with
  | visit id => exact selectAndCenter_calm id now v
  | reheat => exact reheat_calm 1.0 v
  | exportLocal format =>
    have kept : (v.exportLocal format).engine = v.engine ∧
        (v.exportLocal format).dragging = v.dragging := by
      unfold exportLocal
      split <;> exact ⟨rfl, rfl⟩
    exact calm_of_steady steady kept.1 kept.2
  | search => exact perform_calm v (.search v.serverQuery)
  | retry | refresh | clear | loadStats | prune | subgraph | deselect | findPaths
  | exportFromServer =>
    simp only [use] at steady ⊢
    exact act_calm steady.store
  | dismissError | allow | showErrors | showCalls | clearPaths => exact calm_of_steady steady rfl rfl
  | pathFrom | pathTo | unfold | livePhysics | frameRate | resetView => exact ⟨id, id, rfl, rfl⟩

theorem tune_calm (wanted : Layout.Tuning Float32) (v : Viewer) : v.Calm (v.tune wanted) := by
  unfold tune
  dsimp only
  split
  · exact calm_refl v
  · let tuned := { v with engine := v.engine.setTuning wanted.fitted }
    have calm : v.Calm tuned :=
      ⟨id, fun aligned => ⟨aligned.simulation, aligned.published, aligned.current⟩, rfl, rfl⟩
    exact calm.trans (reheat_calm 0.3 tuned)

theorem zoom_calm (area : Rect Float32) (g : Gesture) (v : Viewer) : v.Calm (v.zoom area g) := by
  unfold zoom
  split
  · exact calm_refl v
  · split
    · exact calm_refl v
    · exact ⟨id, id, rfl, rfl⟩

theorem pan_calm (g : Gesture) (v : Viewer) : v.Calm (v.pan g) := by
  unfold pan
  split
  · exact calm_refl v
  · split
    · exact calm_refl v
    · exact ⟨id, id, rfl, rfl⟩

theorem pass_calm (m : Moment) (v : Viewer) : v.Calm (v.pass m) := by
  unfold pass
  dsimp only
  split
  · exact ⟨id, (v.engine.step_keeps _).aligned, v.engine.step_pinned _, rfl⟩
  · exact ⟨id, id, rfl, rfl⟩

theorem hoverNode_keeps (id : Option String) (v : Viewer) :
    (v.hoverNode id).engine = v.engine ∧ (v.hoverNode id).dragging = v.dragging := by
  unfold hoverNode
  split <;> exact ⟨rfl, rfl⟩

theorem point_calm (area : Rect Float32) (g : Gesture) (now : Float) (v : Viewer) :
    v.Calm (v.point area g now) := by
  have hovered := hoverNode_keeps (g.hover.bind (v.nodeUnder? area)) v
  have kept : (v.point area g now).engine = v.engine ∧
      (v.point area g now).dragging = v.dragging := by
    unfold point
    dsimp only
    split
    · split
      · rename_i id _
        obtain ⟨engine, dragging⟩ :=
          selectAndCenter_keeps id now (v.hoverNode (g.hover.bind (v.nodeUnder? area)))
        exact ⟨engine.trans hovered.1, dragging.trans hovered.2⟩
      · exact hovered
    · split
      · exact hovered
      · exact hovered
  exact calm_of_steady (point_steady area g now v) kept.1 kept.2

theorem taken_dragging (inbox : List Message) (v : Viewer) :
    (v.taken inbox).dragging = v.dragging := by
  unfold taken saveServerExport
  split <;> rfl

/-! ### The drag and its pin -/

/-- The graph and the layout are sound, just the node that is dragged is pinned, and while no drag is
under way there is none. -/
structure Grips (under : Bool) (v : Viewer) : Prop where
  wellFormed : v.snapshot.WellFormed
  aligned : v.engine.Aligned
  pins : ∀ id, id ∈ v.engine.pinned ↔ v.dragging = some id
  free : under = false → v.dragging = none

theorem Calm.grips {under : Bool} {v w : Viewer} (calm : v.Calm w) (grips : v.Grips under) :
    w.Grips under where
  wellFormed := calm.wellFormed grips.wellFormed
  aligned := calm.aligned grips.aligned
  pins := by rw [calm.pinned, calm.dragging]; exact grips.pins
  free := by rw [calm.dragging]; exact grips.free

theorem ofSettings_grips (s : Settings) (disk : Disk) : (ofSettings s disk).Grips false where
  wellFormed := Snapshot.empty_wellFormed
  aligned := Layout.Engine.new_aligned s.tuning
  pins := by
    intro id
    constructor
    · intro pinned
      cases pinned
    · intro dragged
      cases dragged
  free := fun _ => rfl

theorem Grips.taken {under : Bool} {v : Viewer} (grips : v.Grips under) (inbox : List Message) :
    (v.taken inbox).Grips under := by
  obtain ⟨engine, _⟩ := v.taken_marks inbox
  have dragging := v.taken_dragging inbox
  refine ⟨(v.taken_revised inbox).wellFormed grips.wellFormed, ?_, ?_, ?_⟩
  · rw [engine]
    exact grips.aligned
  · rw [engine, dragging]
    exact grips.pins
  · rw [dragging]
    exact grips.free

theorem Grips.layOut {under : Bool} {v : Viewer} (grips : v.Grips under)
    (viewport : Vec Float32) : (v.layOut viewport).Grips under where
  wellFormed := grips.wellFormed
  aligned := Layout.Engine.sync_aligned grips.aligned (View.distinct_ids grips.wellFormed _) viewport
  pins := by
    intro id
    have carried := grips.aligned.mem_pinned_sync (View.distinct_ids grips.wellFormed
      v.session.criteria) viewport id
    -- what is no longer laid out has lost its pin with its body
    refine carried.trans ?_
    rw [grips.pins id, Viewer.layOut, Option.filter_eq_some_iff]
    rfl
  free := by
    intro under
    have none : v.dragging = none := grips.free under
    simp [Viewer.layOut, none]

theorem Grips.sync {under : Bool} {v : Viewer} (grips : v.Grips under) (inbox : List Message)
    (viewport : Vec Float32) : (v.sync inbox viewport).Grips under := by
  have taken := grips.taken inbox
  rcases v.sync_cases inbox viewport with laid | ⟨kept, _⟩
  · rw [laid]
    have lying := taken.layOut viewport
    exact ⟨lying.wellFormed, lying.aligned, lying.pins, lying.free⟩
  · rw [kept]
    exact ⟨taken.wellFormed, taken.aligned, taken.pins, taken.free⟩

theorem Grips.seize {under : Bool} {v : Viewer} (grips : v.Grips under) (area : Rect Float32)
    {g : Gesture} (orderly : g.dragStarted = true → under = false) :
    (v.seize area g).Grips (under || g.dragStarted) := by
  have later : v.Grips (under || g.dragStarted) :=
    ⟨grips.wellFormed, grips.aligned, grips.pins, fun free => grips.free (by simp_all)⟩
  unfold Viewer.seize
  split
  · exact later
  · rename_i started
    have started : g.dragStarted = true := by simpa using started
    split
    · exact later
    · split
      · exact later
      · rename_i p _ id _
        dsimp only
        split
        · rename_i held
          have none : v.dragging = none := grips.free (orderly started)
          refine ⟨grips.wellFormed, (v.engine.beginDrag_keeps _ _).aligned grips.aligned, ?_, ?_⟩
          · intro other
            rw [grips.aligned.mem_pinned_beginDrag held, grips.pins other, none]
            simp [eq_comm]
          · intro free
            simp [started] at free
        · exact later

theorem seize_dragging {v : Viewer} (aligned : v.engine.Aligned) {area : Rect Float32} {g : Gesture}
    (started : g.dragStarted = true) {p : Vec Float32} (pointer : g.pointer = some p) {id : String}
    (hit : v.nodeUnder? area p = some id) : (v.seize area g).dragging = some id := by
  obtain ⟨i, _, there⟩ := Option.bind_eq_some_iff.mp hit
  obtain ⟨b, present, named⟩ := Option.map_eq_some_iff.mp there
  have known : (v.engine.indexOf? id).isSome = true := by
    rw [(aligned.index id i).mpr ⟨b, present, named⟩]
    rfl
  have held := Layout.Engine.beginDrag_held known (v.camera.transform.toWorld area.min p)
  simp [Viewer.seize, started, pointer, hit, held]

theorem Grips.carry {under : Bool} {v : Viewer} (grips : v.Grips under) (area : Rect Float32)
    (g : Gesture) : (v.carry area g).Grips (under && !g.dragStopped) := by
  unfold Viewer.carry
  split
  · rename_i none
    exact ⟨grips.wellFormed, grips.aligned, grips.pins, fun _ => none⟩
  · rename_i id dragged
    split
    · rename_i stopped
      refine ⟨grips.wellFormed, (v.engine.endDrag_keeps id).aligned grips.aligned, ?_, fun _ => rfl⟩
      intro other
      rw [grips.aligned.mem_pinned_endDrag, grips.pins other, dragged]
      simp [eq_comm]
    · rename_i goes
      have same : (under && !g.dragStopped) = under := by simp [goes]
      rw [same]
      split
      · exact grips
      · refine ⟨grips.wellFormed, (v.engine.dragTo_keeps id _).aligned grips.aligned, ?_, grips.free⟩
        rw [grips.aligned.dragTo_pinned]
        exact grips.pins

theorem carry_dragging {v : Viewer} {g : Gesture} (goes : g.dragStopped = false)
    (area : Rect Float32) : (v.carry area g).dragging = v.dragging := by
  unfold carry
  split
  · rfl
  · rw [if_neg (by simp [goes])]
    split <;> rfl

theorem frame_calm (area : Rect Float32) (g : Gesture) (m : Moment) (inbox : List Message)
    (v : Viewer) : ((v.sync inbox area.size).dragNode area g).Calm (v.frame area g m inbox) := by
  have passed := ((zoom_calm area g ((v.sync inbox area.size).dragNode area g)).trans
    (pan_calm g _)).trans (pass_calm m _)
  simp only [frame]
  split
  · exact passed
  · exact passed.trans (point_calm area g m.now _)

theorem Grips.frame {under : Bool} {v : Viewer} (grips : v.Grips under) (area : Rect Float32)
    {g : Gesture} (orderly : g.dragStarted = true → under = false) (m : Moment)
    (inbox : List Message) :
    (v.frame area g m inbox).Grips ((under || g.dragStarted) && !g.dragStopped) := by
  have dragged := ((grips.sync inbox area.size).seize area orderly).carry area g
  exact (frame_calm area g m inbox v).grips dragged

/-! ### Runs -/

/-- The states that a viewer comes to if no drag starts while another is under way, with whether one
is. In a frame that reports both, the start comes before the stop. What has to do with neither
session, layout nor drag may change at any time. -/
inductive Orderly (s : Settings) (disk : Disk) : Bool → Viewer → Prop where
  | start : Orderly s disk false (ofSettings s disk)
  | perform {under : Bool} {v : Viewer} (reached : Orderly s disk under v) (a : Session.Action) :
      Orderly s disk under (v.act (·.perform a))
  | use {under : Bool} {v : Viewer} (reached : Orderly s disk under v) (c : Control) (now : Float) :
      Orderly s disk under (v.use c now)
  | tune {under : Bool} {v : Viewer} (reached : Orderly s disk under v)
      (wanted : Layout.Tuning Float32) : Orderly s disk under (v.tune wanted)
  | adjust {under : Bool} {v : Viewer} (reached : Orderly s disk under v) (other : Viewer) :
      Orderly s disk under
        { other with session := v.session, engine := v.engine, dragging := v.dragging }
  | frame {under : Bool} {v : Viewer} (reached : Orderly s disk under v) (area : Rect Float32)
      (g : Gesture) (orderly : g.dragStarted = true → under = false) (m : Moment)
      (inbox : List Message) :
      Orderly s disk ((under || g.dragStarted) && !g.dragStopped) (v.frame area g m inbox)

theorem Orderly.grips {s : Settings} {disk : Disk} {under : Bool} {v : Viewer}
    (reached : Orderly s disk under v) : v.Grips under := by
  induction reached with
  | start => exact ofSettings_grips s disk
  | perform reached a ih => exact (perform_calm _ a).grips ih
  | use reached c now ih => exact (use_calm c now _).grips ih
  | tune reached wanted ih => exact (tune_calm wanted _).grips ih
  | adjust reached other ih => exact ⟨ih.wellFormed, ih.aligned, ih.pins, ih.free⟩
  | frame reached area g orderly m inbox ih => exact ih.frame area orderly m inbox

theorem eq_toList_of_mem {found : List String} (distinct : found.Nodup) {o : Option String}
    (mem : ∀ x, x ∈ found ↔ o = some x) : found = o.toList := by
  cases o with
  | none =>
    apply List.eq_nil_iff_forall_not_mem.mpr
    intro x member
    cases (mem x).mp member
  | some x =>
    have one : found.Perm [x] := by
      rw [List.perm_ext_iff_of_nodup distinct (List.nodup_singleton x)]
      intro y
      rw [mem y, Option.some.injEq, List.mem_singleton]
      exact eq_comm
    exact List.perm_singleton.mp one

theorem Grips.pinned_eq {under : Bool} {v : Viewer} (grips : v.Grips under) :
    v.engine.pinned = v.dragging.toList :=
  eq_toList_of_mem grips.aligned.pinned_nodup grips.pins

/-- In every state that a viewer comes to without a drag that starts within another, the bodies that
are pinned are the one that is dragged, or none; so also in the next frame once it has taken what has
arrived, before it looks at the pointer. While no drag is under way none is pinned, and a drag that
then starts on a node pins just that node. -/
theorem pinned_is_dragged {s : Settings} {disk : Disk} {under : Bool} {v : Viewer}
    (reached : Orderly s disk under v) :
    v.engine.pinned = v.dragging.toList ∧
      (∀ (inbox : List Message) (viewport : Vec Float32),
        (v.sync inbox viewport).engine.pinned = (v.sync inbox viewport).dragging.toList) ∧
      (under = false → v.engine.pinned = [] ∧
        ∀ (area : Rect Float32) (g : Gesture) (m : Moment) (inbox : List Message)
          (p : Vec Float32) (id : String), g.dragStarted = true → g.dragStopped = false →
          g.pointer = some p → (v.sync inbox area.size).nodeUnder? area p = some id →
          (v.frame area g m inbox).engine.pinned = [id]) := by
  have grips := reached.grips
  refine ⟨grips.pinned_eq, fun inbox viewport => (grips.sync inbox viewport).pinned_eq, ?_⟩
  intro free
  refine ⟨by rw [grips.pinned_eq, grips.free free]; rfl, ?_⟩
  intro area g m inbox p id started goes pointer hit
  have seized := seize_dragging (grips.sync inbox area.size).aligned started pointer hit
  have dragging : (v.frame area g m inbox).dragging = some id :=
    ((frame_calm area g m inbox v).dragging.trans (carry_dragging goes area)).trans seized
  rw [(grips.frame area (fun _ => free) m inbox).pinned_eq, dragging]
  rfl

/-- A drag starts in the frame in which a graph arrives, another graph and another viewport come in
the middle of it, and it stops. -/
theorem drag_through_new_graph_leaves_no_pin :
    let graph (ids : List String) : Message :=
      .completed (.graph .refresh (.ok ⟨ids.map fun id => { id, kind := .file }, []⟩))
    let area (width : Float32) : Rect Float32 := ⟨Vec.zero, ⟨width, 100⟩⟩
    let m : Moment := ⟨0, 0⟩
    let grab : Gesture := { pointer := some ⟨84, 76⟩, dragStarted := true }
    let move : Gesture := { pointer := some ⟨90, 70⟩ }
    let drop : Gesture := { move with dragStopped := true }
    let new := ofSettings {} {}
    let seized := new.frame (area 100) grab m [graph ["A"]]
    let kept := seized.frame (area 200) move m [graph ["A", "B"]]
    let released := kept.frame (area 200) drop m []
    new.engine.pinned = [] ∧ seized.engine.pinned = ["A"] ∧
      (kept.dragging = some "A" ∧ kept.engine.pinned = ["A"]) ∧ released.engine.pinned = [] := by
  intro graph area m grab move drop new seized kept released
  have idle : Orderly {} {} false new := .start
  have first : Orderly {} {} true seized :=
    idle.frame (area 100) grab (fun _ => rfl) m [graph ["A"]]
  have second : Orderly {} {} true kept := first.frame (area 200) move nofun m [graph ["A", "B"]]
  have third : Orderly {} {} false released := second.frame (area 200) drop nofun m []
  obtain ⟨unpinned, seizes⟩ := (pinned_is_dragged idle).2.2 rfl
  have hit : (new.sync [graph ["A"]] (area 100).size).nodeUnder? (area 100) ⟨84, 76⟩ = some "A" := by
    decide +kernel
  have dragging : kept.dragging = some "A" := by decide +kernel
  refine ⟨unpinned, seizes (area 100) grab m [graph ["A"]] ⟨84, 76⟩ "A" rfl rfl rfl hit,
    ⟨dragging, ?_⟩, ((pinned_is_dragged third).2.2 rfl).1⟩
  rw [(pinned_is_dragged second).1, dragging]
  rfl

end Viewer

end CodeAtlas
