import CodeAtlas.Proofs.GraphRevisions
import CodeAtlas.Proofs.LayoutShows
import CodeAtlas.Proofs.Neighbors
import CodeAtlas.Viewer.Window

/-!
Runs of the viewer. Whether it lays the view out again is decided by revision, criteria and
viewport; whether the layout starts anew, by a fingerprint of the view; and whether neighbours are
found again, by the focus. Each time that something is left as it was, it is what would be found
again: after every sync the viewer shows the present view.
-/
namespace CodeAtlas

namespace Viewer

structure Displays (v : Viewer) (shown : View) : Prop where
  layout : v.engine.Shows shown
  nodes : v.shownNodes = shown.nodes.length
  links : v.shownLinks = shown.links.length
  emphasis : v.highlight.Fits shown

/-- The graph stays, and so does what is displayed of a view. -/
structure Steady (shown : View) (v w : Viewer) : Prop where
  store : Store.Revised 0 v.session.store w.session.store
  engine : v.engine.Resembles w.engine
  structureKey : w.engine.structureKey = v.engine.structureKey
  synced : w.synced = v.synced
  nodes : w.shownNodes = v.shownNodes
  links : w.shownLinks = v.shownLinks
  emphasis : v.highlight.Fits shown → w.highlight.Fits shown

theorem Steady.trans {shown : View} {u v w : Viewer} (first : u.Steady shown v)
    (second : v.Steady shown w) : u.Steady shown w where
  store := first.store.trans second.store
  engine := first.engine.trans second.engine
  structureKey := second.structureKey.trans first.structureKey
  synced := second.synced.trans first.synced
  nodes := second.nodes.trans first.nodes
  links := second.links.trans first.links
  emphasis := fun fits => second.emphasis (first.emphasis fits)

theorem Steady.displays {shown : View} {v w : Viewer} (steady : v.Steady shown w)
    (displays : v.Displays shown) : w.Displays shown where
  layout := steady.engine.shows displays.layout
  nodes := steady.nodes.trans displays.nodes
  links := steady.links.trans displays.links
  emphasis := steady.emphasis displays.emphasis

def marks (v : Viewer) : Highlight × Option SyncKey × Nat × Nat :=
  (v.highlight, v.synced, v.shownNodes, v.shownLinks)

/-- Session and marks stay, and the layout is worked on at most. -/
structure Idles (v w : Viewer) : Prop where
  session : w.session = v.session
  engine : v.engine.Resembles w.engine
  structureKey : w.engine.structureKey = v.engine.structureKey
  marks : w.marks = v.marks

theorem Idles.trans {u v w : Viewer} (first : u.Idles v) (second : v.Idles w) : u.Idles w where
  session := second.session.trans first.session
  engine := first.engine.trans second.engine
  structureKey := second.structureKey.trans first.structureKey
  marks := second.marks.trans first.marks

theorem Idles.view {v w : Viewer} (idles : v.Idles w) : w.view = v.view := by
  unfold Viewer.view snapshot
  rw [idles.session]

theorem idles_of_keeps {v w : Viewer} (session : w.session = v.session)
    (keeps : v.engine.Keeps w.engine) (marks : w.marks = v.marks) : v.Idles w :=
  ⟨session, keeps.resembles, keeps.structureKey, marks⟩

theorem idles_of_same {v w : Viewer} (session : w.session = v.session)
    (engine : w.engine = v.engine) (marks : w.marks = v.marks) : v.Idles w :=
  idles_of_keeps session (by rw [engine]; exact Layout.Engine.keeps_refl _) marks

theorem idles_refl (v : Viewer) : v.Idles v := idles_of_same rfl rfl rfl

theorem steady_of_marks (shown : View) {v w : Viewer}
    (store : Store.Revised 0 v.session.store w.session.store)
    (engine : v.engine.Resembles w.engine)
    (structureKey : w.engine.structureKey = v.engine.structureKey) (marks : w.marks = v.marks) :
    v.Steady shown w := by
  simp only [Viewer.marks, Prod.mk.injEq] at marks
  obtain ⟨highlight, synced, nodes, links⟩ := marks
  exact ⟨store, engine, structureKey, synced, nodes, links, highlight ▸ id⟩

theorem Idles.steady {v w : Viewer} (idles : v.Idles w) (shown : View) : v.Steady shown w := by
  refine steady_of_marks shown ?_ idles.engine idles.structureKey idles.marks
  rw [idles.session]
  exact Store.revised_of_same rfl rfl

/-! ### Between frames -/

section

variable (shown : View)

theorem act_steady {v : Viewer} {action : Session → Session.Result}
    (store : Store.Revised 0 v.session.store (action v.session).1.store) :
    v.Steady shown (v.act action) :=
  steady_of_marks shown store (Layout.Engine.resembles_refl _) rfl rfl

theorem perform_steady (v : Viewer) (a : Session.Action) :
    v.Steady shown (v.act (·.perform a)) := act_steady shown (Session.perform_revised v.session a)

theorem amend_steady {v : Viewer} {action : Session → Session}
    (store : Store.Revised 0 v.session.store (action v.session).store) :
    v.Steady shown (v.amend action) :=
  steady_of_marks shown store (Layout.Engine.resembles_refl _) rfl rfl

theorem selectAndCenter_steady (id : String) (now : Float) (v : Viewer) :
    v.Steady shown (v.selectAndCenter id now) := by
  have selected := perform_steady shown v (.select (some id))
  unfold selectAndCenter
  dsimp only
  split
  · refine selected.trans (Idles.steady ?_ shown)
    exact idles_of_same rfl rfl rfl
  · exact selected

theorem exportLocal_idles (format : ExportFormat) (v : Viewer) : v.Idles (v.exportLocal format) := by
  unfold exportLocal
  split
  · exact idles_of_same rfl rfl rfl
  · exact idles_of_same rfl rfl rfl

theorem use_steady (c : Control) (now : Float) (v : Viewer) : v.Steady shown (v.use c now) := by
  cases c with
  | retry =>
    have dismissed : Store.Revised 0 v.session.store v.session.dismissError.store :=
      Store.revised_of_same rfl rfl
    have retried : v.Steady shown (v.act fun s => s.dismissError.retry) :=
      act_steady shown (dismissed.trans (Session.perform_revised v.session.dismissError .retry))
    exact retried
  | visit id => exact selectAndCenter_steady shown id now v
  | reheat =>
    refine Idles.steady ?_ shown
    exact idles_of_keeps rfl (v.engine.reheat_keeps 1.0) rfl
  | exportLocal format => exact (exportLocal_idles format v).steady shown
  | refresh => exact perform_steady shown v .refresh
  | clear => exact perform_steady shown v .clear
  | loadStats => exact perform_steady shown v .loadStats
  | search => exact perform_steady shown v (.search v.serverQuery)
  | prune id => exact perform_steady shown v (.prune id)
  | subgraph id => exact perform_steady shown v (.subgraph id v.neighbourhood)
  | deselect => exact perform_steady shown v (.select none)
  | findPaths =>
    exact perform_steady shown v (.findPaths (Text.trim v.pathSource) (Text.trim v.pathTarget))
  | exportFromServer format => exact perform_steady shown v (.exportFromServer format)
  | dismissError | allow | showErrors | showCalls | clearPaths =>
    exact amend_steady shown (Store.revised_of_same rfl rfl)
  | pathFrom | pathTo | unfold | livePhysics | frameRate | resetView =>
    refine Idles.steady ?_ shown
    exact idles_of_same rfl rfl rfl

end

theorem tune_idles (wanted : Layout.Tuning Float32) (v : Viewer) : v.Idles (v.tune wanted) := by
  unfold tune
  dsimp only
  split
  · exact idles_refl v
  · have keeps := Layout.Engine.reheat_keeps (v.engine.setTuning wanted.fitted) 0.3
    exact ⟨rfl, ⟨keeps.resembles.outline, keeps.resembles.springs⟩, rfl, rfl⟩

/-! ### In a frame, after the sync -/

theorem seize_idles (area : Rect Float32) (g : Gesture) (v : Viewer) : v.Idles (v.seize area g) := by
  unfold seize
  split
  · exact idles_refl v
  · split
    · exact idles_refl v
    · split
      · exact idles_refl v
      · dsimp only
        split
        · exact idles_of_keeps rfl (v.engine.beginDrag_keeps _ _) rfl
        · exact idles_refl v

theorem carry_idles (area : Rect Float32) (g : Gesture) (v : Viewer) : v.Idles (v.carry area g) := by
  unfold carry
  split
  · exact idles_refl v
  · split
    · exact idles_of_keeps rfl (v.engine.endDrag_keeps _) rfl
    · split
      · exact idles_refl v
      · exact idles_of_keeps rfl (v.engine.dragTo_keeps _ _) rfl

theorem zoom_idles (area : Rect Float32) (g : Gesture) (v : Viewer) : v.Idles (v.zoom area g) := by
  unfold zoom
  split
  · exact idles_refl v
  · split
    · exact idles_refl v
    · exact idles_of_same rfl rfl rfl

theorem pan_idles (g : Gesture) (v : Viewer) : v.Idles (v.pan g) := by
  unfold pan
  split
  · exact idles_refl v
  · split
    · exact idles_refl v
    · exact idles_of_same rfl rfl rfl

theorem pass_idles (m : Moment) (v : Viewer) : v.Idles (v.pass m) := by
  unfold pass
  dsimp only
  split
  · exact idles_of_keeps rfl (v.engine.step_keeps _) rfl
  · exact idles_of_same rfl rfl rfl

theorem refreshHighlight_steady (force : Bool) (v : Viewer) :
    v.Steady v.view (v.refreshHighlight force) where
  store := Store.revised_of_same rfl rfl
  engine := Layout.Engine.resembles_refl _
  structureKey := rfl
  synced := rfl
  nodes := rfl
  links := rfl
  emphasis := by
    intro fits
    simp only [refreshHighlight]
    split
    · rfl
    · exact fits

theorem hoverNode_steady (id : Option String) (v : Viewer) :
    v.Steady v.view (v.hoverNode id) ∧ (v.hoverNode id).view = v.view := by
  unfold hoverNode
  split
  · exact ⟨(idles_refl v).steady _, rfl⟩
  · have hovered : v.Steady v.view (v.amend (Session.hover id)) :=
      amend_steady _ (Store.revised_of_same rfl rfl)
    exact ⟨hovered.trans (refreshHighlight_steady false (v.amend (Session.hover id))), rfl⟩

theorem select_view (id : Option String) (v : Viewer) : (v.act (Session.select id)).view = v.view := by
  have kept : (v.session.select id).1.store = v.session.store ∧
      (v.session.select id).1.criteria = v.session.criteria := by
    unfold Session.select
    split
    · exact ⟨rfl, rfl⟩
    · cases id with
      | none => exact ⟨rfl, rfl⟩
      | some id => rw [Session.ask_session]; exact ⟨rfl, rfl⟩
  simp only [view, snapshot, act, kept]

theorem point_steady (area : Rect Float32) (g : Gesture) (now : Float) (v : Viewer) :
    v.Steady v.view (v.point area g now) := by
  obtain ⟨hovered, view⟩ := hoverNode_steady (g.hover.bind (v.nodeUnder? area)) v
  unfold point
  dsimp only
  split
  · split
    · exact hovered.trans (selectAndCenter_steady _ _ now _)
    · exact hovered
  · split
    · -- a click selects within the same view, in which the neighbours are then found
      have selected := perform_steady v.view (v.hoverNode (g.hover.bind (v.nodeUnder? area)))
        (.select (g.hover.bind (v.nodeUnder? area)))
      have refreshed := refreshHighlight_steady false
        ((v.hoverNode (g.hover.bind (v.nodeUnder? area))).act
          (Session.select (g.hover.bind (v.nodeUnder? area))))
      rw [select_view, view] at refreshed
      exact (hovered.trans selected).trans refreshed
    · exact hovered

theorem frame_steady (area : Rect Float32) (g : Gesture) (m : Moment) (inbox : List Message)
    (v : Viewer) : (v.sync inbox area.size).Steady (v.sync inbox area.size).view
      (v.frame area g m inbox) := by
  generalize synced : v.sync inbox area.size = s
  have worked : s.Idles ((((s.dragNode area g).zoom area g).pan g).pass m) :=
    ((((seize_idles area g s).trans (carry_idles area g _)).trans (zoom_idles area g _)).trans
      (pan_idles g _)).trans (pass_idles m _)
  simp only [frame, synced]
  split
  · exact worked.steady _
  · have pointed := point_steady area g m.now ((((s.dragNode area g).zoom area g).pan g).pass m)
    rw [worked.view] at pointed
    exact (worked.steady _).trans pointed

/-! ### Syncs -/

def taken (inbox : List Message) (v : Viewer) : Viewer :=
  (v.act (Session.receiveAll inbox)).saveServerExport

theorem saveServerExport_keeps (v : Viewer) :
    v.saveServerExport.session = v.session.takeArtifact.1 ∧
      v.saveServerExport.engine = v.engine ∧ v.saveServerExport.marks = v.marks := by
  unfold saveServerExport
  split
  · rename_i found
    have none : v.session.artifact = none := congrArg Prod.snd found
    refine ⟨?_, rfl, rfl⟩
    simp only [Session.takeArtifact, ← none]
  · rename_i found
    exact ⟨(congrArg Prod.fst found).symm, rfl, rfl⟩

theorem taken_session (inbox : List Message) (v : Viewer) :
    (v.taken inbox).session = (v.session.receiveAll inbox).1.takeArtifact.1 :=
  (v.act (Session.receiveAll inbox)).saveServerExport_keeps.1

theorem taken_marks (inbox : List Message) (v : Viewer) :
    (v.taken inbox).engine = v.engine ∧ (v.taken inbox).marks = v.marks :=
  (v.act (Session.receiveAll inbox)).saveServerExport_keeps.2

theorem taken_revised (inbox : List Message) (v : Viewer) :
    Store.Revised (v.session.revisions inbox) v.session.store (v.taken inbox).session.store := by
  rw [taken_session]
  exact Session.receiveAll_revised v.session inbox

theorem sync_eq (inbox : List Message) (viewport : Vec Float32) (v : Viewer) :
    v.sync inbox viewport =
      if (v.taken inbox).isStale viewport then ((v.taken inbox).layOut viewport).refreshHighlight true
      else (v.taken inbox).refreshHighlight false := rfl

theorem sync_session (inbox : List Message) (viewport : Vec Float32) (v : Viewer) :
    (v.sync inbox viewport).session = (v.taken inbox).session := by
  rw [sync_eq]
  split <;> rfl

theorem sync_view (inbox : List Message) (viewport : Vec Float32) (v : Viewer) :
    (v.sync inbox viewport).view = (v.taken inbox).view := by
  simp only [view, snapshot, sync_session]

theorem frame_snapshot (area : Rect Float32) (g : Gesture) (m : Moment) (inbox : List Message)
    (v : Viewer) :
    (v.frame area g m inbox).snapshot = (v.session.receiveAll inbox).1.store.snapshot := by
  have steady := frame_steady area g m inbox v
  rw [snapshot, steady.store.snapshot rfl, sync_session, taken_session]
  rfl

/-- The view is laid out again, or it has the key of the last sync. -/
theorem sync_cases (inbox : List Message) (viewport : Vec Float32) (v : Viewer) :
    v.sync inbox viewport = ((v.taken inbox).layOut viewport).refreshHighlight true ∨
      v.sync inbox viewport = (v.taken inbox).refreshHighlight false ∧
        v.synced = some (v.taken inbox).syncKey := by
  rw [sync_eq]
  split
  · exact Or.inl rfl
  · rename_i fresh
    have marks := (v.taken_marks inbox).2
    simp only [isStale, Bool.or_eq_true, decide_eq_true_eq, not_or, ne_eq, Decidable.not_not]
      at fresh
    simp only [Viewer.marks, Prod.mk.injEq] at marks
    exact Or.inr ⟨rfl, marks.2.1.symm.trans fresh.1⟩

theorem sync_synced (inbox : List Message) (viewport : Vec Float32) (v : Viewer) :
    (v.sync inbox viewport).synced = some (v.sync inbox viewport).syncKey := by
  rcases sync_cases inbox viewport v with laid | ⟨kept, fresh⟩
  · rw [laid]
    rfl
  · have marks := (v.taken_marks inbox).2
    simp only [Viewer.marks, Prod.mk.injEq] at marks
    rw [kept]
    exact marks.2.1.trans fresh

theorem refreshHighlight_marks (force : Bool) (v : Viewer) :
    (v.refreshHighlight force).highlight.focus = v.session.selection.focus ∧
      (v.refreshHighlight force).highlight.path = v.session.paths.head?.getD [] := by
  refine ⟨?_, rfl⟩
  simp only [refreshHighlight]
  split
  · rfl
  · rename_i same
    simp only [Bool.or_eq_true, decide_eq_true_eq, not_or, ne_eq, Decidable.not_not] at same
    exact same.2

theorem sync_marks (inbox : List Message) (viewport : Vec Float32) (v : Viewer) :
    (v.sync inbox viewport).highlight.focus = (v.sync inbox viewport).session.selection.focus ∧
      (v.sync inbox viewport).highlight.path =
        (v.sync inbox viewport).session.paths.head?.getD [] := by
  rw [sync_eq]
  split
  · exact refreshHighlight_marks true _
  · exact refreshHighlight_marks false _

theorem layOut_displays {v : Viewer} (wf : v.snapshot.WellFormed) (viewport : Vec Float32)
    (known : v.engine.structureKey = some v.view.fingerprint → v.engine.Shows v.view) :
    ((v.layOut viewport).refreshHighlight true).Displays v.view where
  layout := Layout.Engine.sync_shows wf v.session.criteria viewport known
  nodes := rfl
  links := rfl
  emphasis := rfl

end Viewer

/-! ### Runs -/

/-- A viewer, with what has happened to it. -/
structure Watch where
  viewer : Viewer
  /-- How often its graph has changed. -/
  changes : Nat
  /-- The views that it was brought in line with. -/
  views : List View

namespace Watch

def sync (inbox : List Message) (viewport : Vec Float32) (w : Watch) : Watch where
  viewer := w.viewer.sync inbox viewport
  changes := w.changes + w.viewer.session.revisions inbox
  views := w.views ++ [(w.viewer.sync inbox viewport).view]

inductive Event where
  | perform (a : Session.Action)
  | use (c : Control) (now : Float)
  | tune (wanted : Layout.Tuning Float32)
  /-- What has to do with neither session, layout nor emphasis becomes as in another viewer. -/
  | adjust (other : Viewer)
  | frame (area : Rect Float32) (g : Gesture) (m : Moment) (inbox : List Message)

def follow (w : Watch) : Event → Watch
  | .perform a => { w with viewer := w.viewer.act (·.perform a) }
  | .use c now => { w with viewer := w.viewer.use c now }
  | .tune wanted => { w with viewer := w.viewer.tune wanted }
  | .adjust other =>
    { w with
      viewer := { other with
        session := w.viewer.session
        engine := w.viewer.engine
        highlight := w.viewer.highlight
        synced := w.viewer.synced
        viewport := w.viewer.viewport
        shownNodes := w.viewer.shownNodes
        shownLinks := w.viewer.shownLinks } }
  | .frame area g m inbox => { w.sync inbox area.size with viewer := w.viewer.frame area g m inbox }

def run (s : Settings) (disk : Disk) (events : List Event) : Watch :=
  events.foldl follow ⟨.ofSettings s disk, 0, []⟩

/-- The revision has not come round, and no two of the views have the same fingerprint but for
those of one shape. -/
structure Tame (w : Watch) : Prop where
  few : w.changes < UInt64.size
  distinct : ∀ v ∈ w.views, ∀ v' ∈ w.views, v.fingerprint = v'.fingerprint → v.shape = v'.shape

/-- What is displayed was made for the view under the key of the last sync, and the layout for one
of the views. -/
structure Sound (w : Watch) : Prop where
  wellFormed : w.viewer.snapshot.WellFormed
  revision : w.viewer.session.store.revision = .ofNat w.changes
  laidOut : ∀ key, w.viewer.engine.structureKey = some key →
    ∃ v ∈ w.views, v.fingerprint = key ∧ w.viewer.engine.Shows v
  synced : ∀ key, w.viewer.synced = some key →
    ∃ g n, key.revision = .ofNat n ∧ n ≤ w.changes ∧ (n = w.changes → w.viewer.snapshot = g) ∧
      w.viewer.Displays (View.of g key.criteria)

theorem start_sound (s : Settings) (disk : Disk) : Sound ⟨.ofSettings s disk, 0, []⟩ where
  wellFormed := Snapshot.empty_wellFormed
  revision := rfl
  laidOut := by
    intro key laid
    cases laid
  synced := by
    intro key synced
    cases synced

theorem steady_sound {w : Watch} (sound : w.Sound) {v : Viewer}
    (steady : ∀ shown, w.viewer.Steady shown v) : Sound { w with viewer := v } := by
  have one := steady ⟨[], []⟩
  refine ⟨one.store.wellFormed sound.wellFormed, ?_, ?_, ?_⟩
  · rw [one.store.revision, sound.revision]
    simp
  · intro key laid
    obtain ⟨shown, member, fingerprint, shows⟩ := sound.laidOut key (one.structureKey ▸ laid)
    exact ⟨shown, member, fingerprint, one.engine.shows shows⟩
  · intro key synced
    obtain ⟨g, n, revision, earlier, same, displays⟩ := sound.synced key (one.synced ▸ synced)
    refine ⟨g, n, revision, earlier, ?_, (steady _).displays displays⟩
    intro now
    exact (one.store.snapshot rfl).trans (same now)

theorem ofNat_injective {m n : Nat} (small : n < UInt64.size) (le : m ≤ n)
    (same : UInt64.ofNat m = UInt64.ofNat n) : m = n := by
  have values := congrArg UInt64.toNat same
  rwa [UInt64.toNat_ofNat_of_lt' (by omega), UInt64.toNat_ofNat_of_lt' small] at values

theorem known_shows {w : Watch} (sound : w.Sound) {shown : View} {views : List View}
    (distinct : ∀ v ∈ views, ∀ v' ∈ views, v.fingerprint = v'.fingerprint → v.shape = v'.shape)
    (earlier : w.views ⊆ views) (member : shown ∈ views)
    (known : w.viewer.engine.structureKey = some shown.fingerprint) :
    w.viewer.engine.Shows shown := by
  obtain ⟨before, old, fingerprint, shows⟩ := sound.laidOut _ known
  exact shows.of_shape (distinct shown member before (earlier old) fingerprint.symm)

theorem fresh_displays {w : Watch} (sound : w.Sound) {inbox : List Message}
    (few : w.changes + w.viewer.session.revisions inbox < UInt64.size)
    (fresh : w.viewer.synced = some (w.viewer.taken inbox).syncKey) :
    (w.viewer.taken inbox).Displays (w.viewer.taken inbox).view := by
  obtain ⟨g, n, revision, earlier, same, displays⟩ := sound.synced _ fresh
  have store := Viewer.taken_revised inbox w.viewer
  have count : n = w.changes + w.viewer.session.revisions inbox := by
    refine ofNat_injective few (by omega) ?_
    rw [← revision, UInt64.ofNat_add, ← sound.revision]
    exact store.revision
  have unchanged : w.viewer.session.revisions inbox = 0 := by omega
  rw [unchanged] at store
  have graph : (w.viewer.taken inbox).snapshot = g :=
    (store.snapshot rfl).trans (same (by omega))
  obtain ⟨engine, marks⟩ := w.viewer.taken_marks inbox
  have steady : w.viewer.Steady (w.viewer.taken inbox).view (w.viewer.taken inbox) :=
    Viewer.steady_of_marks _ store (by rw [engine]; exact Layout.Engine.resembles_refl _)
      (by rw [engine]) marks
  apply steady.displays
  rw [Viewer.view, graph]
  exact displays

theorem sync_revised (w : Watch) (inbox : List Message) (viewport : Vec Float32) :
    Store.Revised (w.viewer.session.revisions inbox) w.viewer.session.store
      (w.sync inbox viewport).viewer.session.store := by
  rw [sync, Viewer.sync_session]
  exact Viewer.taken_revised inbox w.viewer

theorem sync_displays {w : Watch} (sound : w.Sound) {inbox : List Message} {viewport : Vec Float32}
    (tame : (w.sync inbox viewport).Tame) :
    let v := (w.sync inbox viewport).viewer
    v.Displays v.view ∧ v.synced = some v.syncKey := by
  have wf := (Viewer.taken_revised inbox w.viewer).wellFormed sound.wellFormed
  have view := w.viewer.sync_view inbox viewport
  refine ⟨?_, w.viewer.sync_synced inbox viewport⟩
  simp only [sync, view]
  rcases w.viewer.sync_cases inbox viewport with laid | ⟨kept, fresh⟩
  · rw [laid]
    refine Viewer.layOut_displays wf viewport ?_
    intro known
    rw [(w.viewer.taken_marks inbox).1] at known ⊢
    have member : (w.viewer.taken inbox).view ∈ (w.sync inbox viewport).views := by
      simp [sync, view]
    exact known_shows sound tame.distinct (List.subset_append_left _ _) member known
  · rw [kept]
    exact (Viewer.refreshHighlight_steady false _).displays (fresh_displays sound tame.few fresh)

theorem sync_laidOut {w : Watch} (sound : w.Sound) {inbox : List Message}
    {viewport : Vec Float32} (tame : (w.sync inbox viewport).Tame) {key : UInt64}
    (laid : (w.sync inbox viewport).viewer.engine.structureKey = some key) :
    ∃ v ∈ (w.sync inbox viewport).views,
      v.fingerprint = key ∧ (w.sync inbox viewport).viewer.engine.Shows v := by
  obtain ⟨displays, _⟩ := sync_displays sound tame
  obtain ⟨engine, _⟩ := w.viewer.taken_marks inbox
  have cases := w.viewer.sync_eq inbox viewport
  cases stale : (w.viewer.taken inbox).isStale viewport with
  | true =>
    rw [stale, if_pos rfl] at cases
    refine ⟨_, List.mem_append_right _ (List.mem_singleton_self _), ?_, displays.layout⟩
    have renewed : (w.viewer.sync inbox viewport).engine.structureKey =
        some (w.viewer.sync inbox viewport).view.fingerprint := by
      rw [cases]
      exact Layout.Engine.sync_structureKey _ _ _
    exact Option.some.inj (renewed.symm.trans laid)
  | false =>
    rw [stale, if_neg Bool.false_ne_true] at cases
    have same : (w.sync inbox viewport).viewer.engine = w.viewer.engine := by
      rw [sync, cases]
      exact engine
    rw [same] at laid ⊢
    obtain ⟨v, member, fingerprint, shows⟩ := sound.laidOut key laid
    exact ⟨v, List.mem_append_left _ member, fingerprint, shows⟩

theorem sync_sound {w : Watch} (sound : w.Sound) {inbox : List Message} {viewport : Vec Float32}
    (tame : (w.sync inbox viewport).Tame) {v : Viewer}
    (steady : (w.sync inbox viewport).viewer.Steady (w.sync inbox viewport).viewer.view v) :
    Sound { w.sync inbox viewport with viewer := v } := by
  obtain ⟨displays, synced⟩ := sync_displays sound tame
  have store := w.sync_revised inbox viewport
  have revision : (w.sync inbox viewport).viewer.session.store.revision =
      .ofNat (w.sync inbox viewport).changes := by
    rw [store.revision, sound.revision, sync, UInt64.ofNat_add]
  refine ⟨steady.store.wellFormed (store.wellFormed sound.wellFormed), ?_, ?_, ?_⟩
  · rw [steady.store.revision, revision]
    simp
  · intro key laid
    obtain ⟨shown, member, fingerprint, shows⟩ :=
      sync_laidOut sound tame (steady.structureKey ▸ laid)
    exact ⟨shown, member, fingerprint, steady.engine.shows shows⟩
  · intro key found
    have present : key = (w.sync inbox viewport).viewer.syncKey :=
      Option.some.inj ((found.symm.trans steady.synced).trans synced)
    subst present
    exact ⟨_, _, revision, le_rfl, fun _ => steady.store.snapshot rfl, steady.displays displays⟩

theorem follow_sound {w : Watch} (sound : w.Sound) {e : Event} (tame : (w.follow e).Tame) :
    (w.follow e).Sound := by
  cases e with
  | perform a => exact steady_sound sound fun shown => Viewer.perform_steady shown w.viewer a
  | use c now => exact steady_sound sound fun shown => Viewer.use_steady shown c now w.viewer
  | tune wanted => exact steady_sound sound (w.viewer.tune_idles wanted).steady
  | adjust other =>
    refine steady_sound sound fun shown => Viewer.Idles.steady ?_ shown
    exact Viewer.idles_of_same rfl rfl rfl
  | frame area g m inbox =>
    have calm : (w.sync inbox area.size).Tame := ⟨tame.few, tame.distinct⟩
    exact sync_sound sound calm (Viewer.frame_steady area g m inbox w.viewer)

theorem follow_grows (w : Watch) (e : Event) :
    w.changes ≤ (w.follow e).changes ∧ w.views ⊆ (w.follow e).views := by
  cases e with
  | frame area g m inbox => exact ⟨Nat.le_add_right _ _, List.subset_append_left _ _⟩
  | _ => exact ⟨le_rfl, List.Subset.refl _⟩

theorem Tame.before {w w' : Watch} (tame : w'.Tame) (changes : w.changes ≤ w'.changes)
    (views : w.views ⊆ w'.views) : w.Tame where
  few := Nat.lt_of_le_of_lt changes tame.few
  distinct := fun v member v' member' => tame.distinct v (views member) v' (views member')

theorem foldl_grows (w : Watch) (events : List Event) :
    w.changes ≤ (events.foldl follow w).changes ∧ w.views ⊆ (events.foldl follow w).views := by
  induction events generalizing w with
  | nil => exact ⟨le_rfl, List.Subset.refl _⟩
  | cons e rest ih =>
    obtain ⟨changes, views⟩ := follow_grows w e
    obtain ⟨more, others⟩ := ih (w.follow e)
    exact ⟨changes.trans more, List.Subset.trans views others⟩

theorem foldl_sound {w : Watch} (sound : w.Sound) {events : List Event}
    (tame : (events.foldl follow w).Tame) : (events.foldl follow w).Sound := by
  induction events generalizing w with
  | nil => exact sound
  | cons e rest ih =>
    -- the run as a whole being tame, it is so up to here
    obtain ⟨changes, views⟩ := foldl_grows (w.follow e) rest
    exact ih (follow_sound sound (tame.before changes views)) tame

/-- Whatever was done since the viewer was new, in every order of actions, arrivals, criteria and
sizes: after a sync the layout has the nodes and the links of the present view, the counts are its
own, and the emphasis is on the focus with its neighbours in that view, and on the first path. -/
theorem sync_shows_present_view (s : Settings) (disk : Disk) (events : List Event)
    (inbox : List Message) (viewport : Vec Float32)
    (tame : ((run s disk events).sync inbox viewport).Tame) :
    let v := (run s disk events).viewer.sync inbox viewport
    let shown := View.of v.session.store.snapshot v.session.criteria
    (v.engine.bodies.toList.map fun b => (b.id, b.kind)) =
        (shown.nodes.map fun n => (n.id, n.kind)) ∧
      v.engine.springs.map v.engine.keyOf? =
        ((shown.links.map Link.key).filter fun k => k.source ≠ k.target).map some ∧
      v.shownNodes = shown.nodes.length ∧ v.shownLinks = shown.links.length ∧
      v.highlight.focus = v.session.selection.focus ∧
      (∀ id, id ∈ v.highlight.neighbors ↔ ∃ focus, v.session.selection.focus = some focus ∧
        id ≠ focus ∧ ∃ l ∈ shown.links, Highlight.Joins focus id l) ∧
      v.highlight.path = v.session.paths.head?.getD [] := by
  intro v shown
  have before : (run s disk events).Tame :=
    tame.before (Nat.le_add_right _ _) (List.subset_append_left _ _)
  have sound : (run s disk events).Sound := foldl_sound (start_sound s disk) before
  have displays : v.Displays shown := (sync_displays sound tame).1
  obtain ⟨focus, path⟩ := (run s disk events).viewer.sync_marks inbox viewport
  refine ⟨displays.layout.nodes, displays.layout.links, displays.nodes, displays.links, focus, ?_,
    path⟩
  intro id
  rw [displays.emphasis.mem_iff id, focus]

/-- A graph is shown in a frame. Then a node is hovered, and the next sync finds the graph and the
criteria as they were. -/
theorem unchanged_graph_stays_shown :
    let node (id : String) : Node := { id, kind := .file }
    let link (target : String) : Link := ⟨.bare "a", .bare target, .calls⟩
    let p : Payload := ⟨[node "b", node "a"], [link "a", link "b"]⟩
    let size : Vec Float32 := ⟨800, 600⟩
    let events : List Event := [
      .frame ⟨Vec.zero, size⟩ {} ⟨0, 0⟩ [.completed (.graph .refresh (.ok p))],
      .perform (.setCriteria {}), .perform (.hover (some "a"))]
    let w := (run {} {} events).sync [] size
    w.Tame ∧
      (w.viewer.engine.bodies.toList.map fun b => (b.id, b.kind)) =
        [("a", .file), ("b", .file)] ∧
      w.viewer.engine.springs.map w.viewer.engine.keyOf? = [some ⟨"a", "b", .calls⟩] ∧
      w.viewer.shownLinks = 2 ∧ w.viewer.highlight.focus = some "a" ∧
      "b" ∈ w.viewer.highlight.neighbors ∧ "a" ∉ w.viewer.highlight.neighbors := by
  intro node link p size events w
  let shown := View.of (.ofPayload p) {}
  have first : ((Viewer.ofSettings {} {}).sync [.completed (.graph .refresh (.ok p))]
      (Rect.size ⟨Vec.zero, size⟩)).view = shown := by
    simp only [Viewer.view, Viewer.snapshot, Viewer.sync_session, Viewer.taken_session]
    rfl
  have graph : (run {} {} events).viewer.snapshot = .ofPayload p := by
    have steady := Viewer.frame_steady ⟨Vec.zero, size⟩ {} ⟨0, 0⟩
      [.completed (.graph .refresh (.ok p))] (Viewer.ofSettings {} {})
    refine (steady.store.snapshot rfl).trans ?_
    rw [Viewer.sync_session, Viewer.taken_session]
    rfl
  have second : w.viewer.view = shown := by
    simp only [w, sync, Viewer.view, Viewer.snapshot, Viewer.sync_session, Viewer.taken_session]
    exact congrArg (View.of · {}) graph
  have views : w.views = [shown, shown] := by
    rw [← second]
    nth_rewrite 1 [second]
    rw [← first]
    rfl
  have tame : w.Tame := by
    refine ⟨by decide +kernel, ?_⟩
    intro v member v' member' _
    rw [views] at member member'
    simp only [List.mem_cons, List.not_mem_nil, or_false, or_self] at member member'
    rw [member, member']
  have focus : w.viewer.session.selection.focus = some "a" := by
    simp only [w, sync, Viewer.sync_session, Viewer.taken_session]
    rfl
  have present : View.of ((run {} {} events).viewer.sync [] size).session.store.snapshot
      ((run {} {} events).viewer.sync [] size).session.criteria = shown := second
  have shows := sync_shows_present_view {} {} events [] size tame
  dsimp only at shows
  rw [present] at shows
  obtain ⟨nodes, links, _, count, focused, neighbors, _⟩ := shows
  have shape : shown.shape =
      ([("a", .file), ("b", .file)], [⟨"a", "a", .calls⟩, ⟨"a", "b", .calls⟩]) := by
    decide +kernel
  obtain ⟨listed, keys⟩ := Prod.mk.inj shape
  have counted : shown.links.length = 2 := by
    simpa using congrArg List.length keys
  rw [keys] at links
  refine ⟨tame, nodes.trans listed, links, count.trans counted, focused.trans focus, ?_, ?_⟩
  · have member : (⟨"a", "b", .calls⟩ : LinkKey) ∈ shown.links.map Link.key := by simp [keys]
    obtain ⟨l, found, key⟩ := List.mem_map.mp member
    obtain ⟨source, target, _⟩ := LinkKey.mk.inj key
    exact (neighbors "b").mpr ⟨"a", focus, by decide, l, found, Or.inl ⟨source, target⟩⟩
  · intro member
    obtain ⟨other, same, different, _⟩ := (neighbors "a").mp member
    exact different (Option.some.inj (focus.symm.trans same))

end Watch

end CodeAtlas
