import CodeAtlas.Graph.Highlight
import CodeAtlas.Layout.Engine
import CodeAtlas.Proofs.StoreRuns

/-!
The two forms of a link's end. Whether an end is an identity or a whole node is carried along with
the link and never looked at: reducing every end to its identity before a step or after it comes to
the same. Runs that are the same once reduced can therefore not be told apart by what is shown.
-/
namespace CodeAtlas

/-! ### Reduced to identities -/

def Link.plain (l : Link) : Link := ⟨.bare l.source.id, .bare l.target.id, l.kind⟩

def Payload.plain (p : Payload) : Payload := { p with links := p.links.map Link.plain }

def Delta.plain : Delta → Delta
  | .nodeAdded n => .nodeAdded n
  | .nodeRemoved id => .nodeRemoved id
  | .linkAdded l => .linkAdded l.plain
  | .linkRemoved l => .linkRemoved l.plain

def Snapshot.plain (g : Snapshot) : Snapshot := { g with links := g.links.map Link.plain }

def Store.plain (s : Store) : Store := { s with snapshot := s.snapshot.plain }

def Store.Operation.plain : Operation → Operation
  | .replace p => .replace p.plain
  | .apply d => .apply d.plain
  | .clear => .clear
  | .setLoading loading => .setLoading loading
  | .setError error => .setError error

def View.plain (v : View) : View := { v with links := v.links.map Link.plain }

theorem Link.keys_plain (links : List Link) :
    (links.map Link.plain).map Link.key = links.map Link.key := List.map_map

/-! ### The store -/

namespace Snapshot

variable (g : Snapshot)

theorem insertNode_plain (n : Node) : (g.insertNode n).plain = g.plain.insertNode n := by
  unfold insertNode
  change _ = if g.contains n.id then g.plain else _
  split <;> rfl

theorem eraseNode_plain (id : String) : (g.eraseNode id).plain = g.plain.eraseNode id := by
  unfold eraseNode
  change _ = if g.contains id then _ else g.plain
  split
  · simp only [plain, List.filter_map]
    rfl
  · rfl

theorem addLink_plain (l : Link) : (g.addLink l).plain = g.plain.addLink l.plain := by
  simp only [addLink, plain, List.map_append, List.map_cons, List.map_nil]

theorem eraseLinks_plain (key : LinkKey) :
    (g.eraseLinks key).plain = g.plain.eraseLinks key := by
  simp only [eraseLinks, plain, List.filter_map]
  rfl

theorem ofPayload_plain (p : Payload) : (ofPayload p).plain = ofPayload p.plain := by
  simp only [ofPayload, plain, Payload.plain, List.filter_map]
  rfl

end Snapshot

namespace Store

theorem objection_plain (s : Store) (d : Delta) : s.plain.objection? d.plain = s.objection? d := by
  cases d <;> rfl

theorem change_plain (g : Snapshot) (d : Delta) :
    change? g.plain d.plain = (change? g d).map Snapshot.plain := by
  cases d with
  | nodeAdded n =>
    change (if g.contains n.id then none else some (g.plain.insertNode n)) = _
    rw [← g.insertNode_plain, change?]
    split <;> rfl
  | nodeRemoved id =>
    change (if g.contains id then some (g.plain.eraseNode id) else none) = _
    rw [← g.eraseNode_plain, change?]
    split <;> rfl
  | linkAdded l =>
    change some (g.plain.addLink l.plain) = _
    rw [← g.addLink_plain]
    rfl
  | linkRemoved l =>
    have found : (g.plain.links.any fun m => m.key = l.plain.key) =
        g.links.any fun m => m.key = l.key := List.any_map
    rw [Delta.plain, change?, found, change?]
    change (if _ then some (g.plain.eraseLinks l.key) else none) = _
    rw [← g.eraseLinks_plain]
    split <;> rfl

theorem apply_plain (s : Store) (d : Delta) :
    s.plain.apply d.plain = ((s.apply d).1.plain, (s.apply d).2) := by
  have change : change? s.plain.snapshot d.plain = (change? s.snapshot d).map Snapshot.plain :=
    change_plain s.snapshot d
  unfold apply
  rw [objection_plain, change]
  split
  · rfl
  · cases change? s.snapshot d <;> rfl

theorem perform_plain (s : Store) (op : Operation) :
    (s.perform op).plain = s.plain.perform op.plain := by
  cases op with
  | replace p =>
    change s.plain.replace (Snapshot.ofPayload p).plain = _
    rw [Snapshot.ofPayload_plain]
    rfl
  | apply d =>
    change _ = (s.plain.apply d.plain).1
    rw [apply_plain]
    rfl
  | clear | setLoading | setError => rfl

def outcome? (s : Store) : Operation → Option Outcome
  | .apply d => some (s.apply d).2
  | _ => none

theorem outcome_plain (s : Store) (op : Operation) :
    s.plain.outcome? op.plain = s.outcome? op := by
  cases op with
  | apply d =>
    change some (s.plain.apply d.plain).2 = _
    rw [apply_plain]
    rfl
  | replace | clear | setLoading | setError => rfl

end Store

/-! ### What is shown -/

namespace View

theorem of_plain (g : Snapshot) (c : Criteria) : View.of g.plain c = (View.of g c).plain := by
  simp only [View.of, plain, Snapshot.plain, List.filter_map]
  rfl

theorem fingerprint_plain (v : View) : v.plain.fingerprint = v.fingerprint := by
  simp only [fingerprint, feed, plain, List.length_map, List.flatMap_map]
  rfl

end View

namespace Layout

variable {α : Type} [Scalar α]

theorem springsOf_plain (index : Dict Nat) (links : List Link) :
    springsOf index (links.map Link.plain) = springsOf index links := List.filterMap_map

theorem start_plain (v : View) (center : Vec α) (before : Array (Body α)) :
    Simulation.start v.plain center before = Simulation.start v center before := by
  simp only [Simulation.start, View.plain, springsOf_plain]
  rfl

theorem Engine.sync_plain (e : Engine α) (v : View) (viewport : Vec α) :
    e.sync v.plain viewport = e.sync v viewport := by
  have known : e.isFor v.plain viewport = e.isFor v viewport := by
    rw [isFor, View.fingerprint_plain]
    rfl
  simp only [sync, known, View.fingerprint_plain, start_plain]

end Layout

theorem Highlight.focusInView_plain (h : Highlight) (focus : Option String) (v : View) :
    h.focusInView focus v.plain = h.focusInView focus v := by
  cases focus with
  | none => rfl
  | some id =>
    have neighbors : neighborsOf id (v.links.map Link.plain) = neighborsOf id v.links := by
      rw [neighborsOf, List.filterMap_map]
      rfl
    simp only [focusInView, setFocus, View.plain, neighbors]

/-! ### Runs -/

/-- A graph with its layout and its emphasis, and what became of the deltas so far. -/
structure Display (α : Type) where
  store : Store := {}
  outcomes : List Outcome := []
  engine : Layout.Engine α
  highlight : Highlight := {}

namespace Display

inductive Move (α : Type) where
  | operate (op : Store.Operation)
  | layOut (criteria : Criteria) (viewport : Vec α)
  /-- A step, a drag or whatever else is done to the layout without the graph. -/
  | work (action : Layout.Engine α → Layout.Engine α)
  | focus (id : Option String) (criteria : Criteria)
  | path (ids : Option (List String))

def Move.plain {α : Type} : Move α → Move α
  | .operate op => .operate op.plain
  | .layOut criteria viewport => .layOut criteria viewport
  | .work action => .work action
  | .focus id criteria => .focus id criteria
  | .path ids => .path ids

variable {α : Type}

def plain (d : Display α) : Display α := { d with store := d.store.plain }

def view (d : Display α) (c : Criteria) : View := View.of d.store.snapshot c

def focused (d : Display α) (c : Criteria) (focus : Option String) : Highlight :=
  d.highlight.focusInView focus (d.view c)

/-- The same graph but for the forms of ends, with the same history, layout and emphasis. -/
structure Alike (d e : Display α) : Prop where
  outcomes : d.outcomes = e.outcomes
  revision : d.store.revision = e.store.revision
  nodes : d.store.snapshot.nodes = e.store.snapshot.nodes
  links : d.store.snapshot.links.map Link.key = e.store.snapshot.links.map Link.key
  engine : d.engine = e.engine
  highlight : d.highlight = e.highlight

theorem alike_of_plain {d e : Display α} (same : d.plain = e.plain) : d.Alike e where
  outcomes := congrArg (·.outcomes) same
  revision := congrArg (·.store.revision) same
  nodes := congrArg (·.store.snapshot.nodes) same
  links := by
    rw [← Link.keys_plain, ← Link.keys_plain e.store.snapshot.links]
    exact congrArg (·.store.snapshot.links.map Link.key) same
  engine := congrArg (·.engine) same
  highlight := congrArg (·.highlight) same

variable [Scalar α]

structure SeenAlike (d e : Display α) (c : Criteria) (focus : Option String) (viewport : Vec α) :
    Prop where
  nodes : (d.view c).nodes = (e.view c).nodes
  links : (d.view c).links.map Link.key = (e.view c).links.map Link.key
  fingerprint : (d.view c).fingerprint = (e.view c).fingerprint
  layout : d.engine.sync (d.view c) viewport = e.engine.sync (e.view c) viewport
  neighbors : (d.focused c focus).neighbors = (e.focused c focus).neighbors
  nodeEmphasis : (d.focused c focus).nodeEmphasis = (e.focused c focus).nodeEmphasis
  linkEmphasis : (d.view c).links.map (d.focused c focus).linkEmphasis =
    (e.view c).links.map (e.focused c focus).linkEmphasis

theorem seenAlike_of_plain {d e : Display α} (same : d.plain = e.plain) (c : Criteria)
    (focus : Option String) (viewport : Vec α) : d.SeenAlike e c focus viewport := by
  have views : (d.view c).plain = (e.view c).plain := by
    rw [view, view, ← View.of_plain, ← View.of_plain]
    exact congrArg (fun d => View.of d.store.snapshot c) same
  have engines : d.engine = e.engine := (alike_of_plain same).engine
  have focused : d.focused c focus = e.focused c focus := by
    rw [Display.focused, Display.focused, (alike_of_plain same).highlight,
      ← Highlight.focusInView_plain, views, Highlight.focusInView_plain]
  have links : (d.view c).links.map Link.plain = (e.view c).links.map Link.plain :=
    congrArg (·.links) views
  have nodes : (d.view c).nodes = (e.view c).nodes := congrArg (·.nodes) views
  refine ⟨nodes, ?_, ?_, ?_, ?_, ?_, ?_⟩
  · rw [← Link.keys_plain, links, Link.keys_plain]
  · rw [← View.fingerprint_plain, views, View.fingerprint_plain]
  · rw [engines, ← Layout.Engine.sync_plain, views, Layout.Engine.sync_plain]
  · rw [focused]
  · rw [focused]
  · have emphases := congrArg (List.map (e.focused c focus).linkEmphasis) links
    rw [List.map_map, List.map_map] at emphases
    rw [focused]
    exact emphases

def perform (d : Display α) : Move α → Display α
  | .operate op =>
    { d with
      store := d.store.perform op
      outcomes := d.outcomes ++ (d.store.outcome? op).toList }
  | .layOut criteria viewport => { d with engine := (d.engine.sync (d.view criteria) viewport).1 }
  | .work action => { d with engine := action d.engine }
  | .focus id criteria => { d with highlight := d.highlight.focusInView id (d.view criteria) }
  | .path ids => { d with highlight := d.highlight.setPath ids }

def run (d : Display α) (moves : List (Move α)) : Display α := moves.foldl perform d

theorem perform_plain (d : Display α) (m : Move α) :
    (d.perform m).plain = d.plain.perform m.plain := by
  have view (c : Criteria) : d.plain.view c = (d.view c).plain := View.of_plain d.store.snapshot c
  cases m with
  | operate op =>
    have store := d.store.perform_plain op
    have outcome := d.store.outcome_plain op
    simp only [perform, plain, Move.plain, store, outcome]
  | layOut criteria viewport =>
    simp only [Move.plain, perform, view, d.plain.engine.sync_plain]
    rfl
  | work action => rfl
  | focus id criteria =>
    simp only [Move.plain, perform, view, d.plain.highlight.focusInView_plain]
    rfl
  | path ids => rfl

theorem run_plain (d : Display α) (moves : List (Move α)) :
    (d.run moves).plain = d.plain.run (moves.map Move.plain) := by
  induction moves generalizing d with
  | nil => rfl
  | cons m rest ih =>
    change ((d.perform m).run rest).plain = (d.plain.perform m.plain).run (rest.map Move.plain)
    rw [ih, perform_plain]

/-- Two runs whose moves are the same once every end of a link is reduced to its identity. After
each move all deltas so far came out alike, and the graphs have one revision, the same nodes and the
same keys of links; under all criteria, with any node in focus and in any viewport they are seen,
laid out and emphasised alike. -/
theorem forms_of_ends_stay_unseen (start : Display α) {moves others : List (Move α)}
    (same : moves.map Move.plain = others.map Move.plain) (k : Nat) :
    let d := start.run (moves.take k)
    let e := start.run (others.take k)
    d.Alike e ∧ ∀ c focus viewport, d.SeenAlike e c focus viewport := by
  intro d e
  have reduced : d.plain = e.plain := by
    rw [run_plain, run_plain, List.map_take, List.map_take, same]
  exact ⟨alike_of_plain reduced, seenAlike_of_plain reduced⟩

/-- Of two links with one key one has an embedded end, in each run another one. The removal in the
form of the first link takes both, so that the one in the form of the second finds none. -/
theorem removal_takes_links_of_either_form :
    let node (id : String) : Node := { id, kind := .file }
    let bare : Link := ⟨.bare "a", .bare "b", .calls⟩
    let whole : Link := ⟨.embedded "a" [("name", .str "A")], .bare "b", .calls⟩
    let moves (l m : Link) : List (Move Float32) :=
      [.operate (.replace ⟨[node "a", node "b"], [l, m]⟩), .layOut {} .zero, .focus (some "a") {},
        .operate (.apply (.linkRemoved l)), .operate (.apply (.linkRemoved m))]
    let first := run { engine := .new .standard } (moves bare whole)
    let second := run { engine := .new .standard } (moves whole bare)
    (moves bare whole).map Move.plain = (moves whole bare).map Move.plain ∧
      first.outcomes = [.applied, .unchanged] ∧ first.highlight.neighbors = ["b"] ∧
      first.Alike second ∧ ∀ c focus viewport, first.SeenAlike second c focus viewport := by
  intro node bare whole moves first second
  have same : (moves bare whole).map Move.plain = (moves whole bare).map Move.plain := rfl
  obtain ⟨alike, seen⟩ := forms_of_ends_stay_unseen { engine := .new .standard } same 5
  refine ⟨same, ?_, ?_, alike, seen⟩
  · decide
  · decide

end Display

end CodeAtlas
