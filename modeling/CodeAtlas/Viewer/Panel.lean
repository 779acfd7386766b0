import CodeAtlas.Viewer.State

/-!
The panels around the canvas: a bar, a banner for an error, the controls and the details. A panel is
a list of pieces, and a piece is made of items, some of which have a text and some of which can be
used. From frame to frame an item is known by its spot.
-/
namespace CodeAtlas

inductive Fold where
  | findPaths
  | tuning
  | properties
  | details
  deriving DecidableEq, Repr

def Fold.title : Fold → String
  | .findPaths => "Find paths"
  | .tuning => "Physics tuning"
  | .properties => "Properties"
  | .details => "Backend details"

inductive Table where
  | properties
  | details
  | stats
  deriving DecidableEq, Repr

inductive Control where
  | dismissError
  | retry
  | refresh
  | clear
  | loadStats
  | allow (kind : NodeKind)
  | showErrors
  | showCalls
  | visit (id : String)
  | search
  | prune (id : String)
  | subgraph (id : String)
  | pathFrom (id : String)
  | pathTo (id : String)
  | deselect
  | unfold (fold : Fold)
  | findPaths
  | clearPaths
  | livePhysics
  | frameRate
  | reheat
  | resetView
  | exportLocal (format : ExportFormat)
  | exportFromServer (format : ExportFormat)
  deriving DecidableEq, Repr

structure Item where
  text : String := ""
  control : Option Control := none
  /-- It cannot be used at present. -/
  disabled : Bool := false
  deriving DecidableEq, Repr

namespace Item

def label (text : String) : Item := { text }

def rule : Item := {}

def button (text : String) (control : Control) : Item := { text, control := some control }

def buttonIf (condition : Bool) (text : String) (control : Control) : Item :=
  { text, control := some control, disabled := !condition }

end Item

inductive Block where
  | item (i : Item)
  | row (items : List Item)
  | table (t : Table) (rows : List (String × String))
  deriving DecidableEq, Repr

/-- A piece of a panel: a block, or a part under its title. The content of a part that is folded away
is empty. -/
inductive Piece where
  | block (b : Block)
  | part (fold : Fold) (content : List Block)
  deriving DecidableEq, Repr

inductive Panel where
  | bar
  | banner
  | controls
  | details
  deriving DecidableEq, Repr

/-- What an item is known by from frame to frame. The title of a part is known by itself. Any other
item is known by its place: the panel, the part that it is in, and its numbers among the pieces and
within them. So when pieces come or go, an item further down takes the place of another. -/
inductive Spot where
  | title (fold : Fold)
  | place (panel : Panel) (part : Option Fold) (numbers : List Nat)
  deriving DecidableEq, Repr

structure Widget where
  item : Item
  spot : Option Spot := none
  deriving DecidableEq, Repr

namespace Block

def table? : Block → Option Table
  | .table t _ => some t
  | _ => none

/-- The items of a block that has these numbers. A table is measured when it first appears, and its
items are not drawn until then. -/
def widgets (measured : List Table) (panel : Panel) (part : Option Fold) (numbers : List Nat) :
    Block → List Widget
  | .item i => [{ item := i, spot := some (.place panel part numbers) }]
  | .row items => items.mapIdx fun n i =>
    { item := i, spot := some (.place panel part (numbers ++ [n])) }
  | .table t rows =>
    if measured.contains t then
      (rows.flatMap fun r => [r.1, r.2]).map fun text => { item := Item.label text }
    else []

end Block

namespace Piece

def item (i : Item) : Piece := .block (.item i)

def row (items : List Item) : Piece := .block (.row items)

def label (text : String) : Piece := item (Item.label text)

def rule : Piece := item Item.rule

def button (text : String) (control : Control) : Piece := item (Item.button text control)

def tables : Piece → List Table
  | .block b => b.table?.toList
  | .part _ content => content.filterMap Block.table?

def widgets (measured : List Table) (panel : Panel) (number : Nat) : Piece → List Widget
  | .block b => b.widgets measured panel none [number]
  | .part fold content =>
    { item := Item.button fold.title (.unfold fold), spot := some (.title fold) } ::
      (content.mapIdx fun n b => b.widgets measured panel (some fold) [number, n]).flatten

end Piece

def Panel.widgets (measured : List Table) (panel : Panel) (pieces : List Piece) : List Widget :=
  (pieces.mapIdx fun n p => p.widgets measured panel n).flatten

def Json.plainText : Json → String
  | .str s => s
  | .null => "-"
  | other => other.compact

namespace Viewer

open Piece (label rule button row)

/-! ### The bar and the banner -/

def connectionWords (v : Viewer) (reconnects : Nat) : String :=
  match v.session.connectionState with
  | .connected => "live"
  | .connecting => "connecting"
  | .disconnected => if reconnects > 0 then s!"offline (retry {reconnects})" else "offline"

def bar (v : Viewer) (reconnects : Nat) : List Piece :=
  [label "Code graph", rule, label "●", label (v.connectionWords reconnects), rule,
    label v.visibleText] ++
  v.frameRate?.toList.map label ++ v.notice.toList.map label

def banner (v : Viewer) : List Piece :=
  match v.session.store.error with
  | none => []
  | some why =>
    [label why, button "Dismiss" .dismissError] ++
    if v.session.canRetry then [button "Retry" .retry] else []

/-! ### The controls -/

def graphControls (v : Viewer) : List Piece :=
  let idle := !v.session.store.loading
  [label "Graph Controls", rule,
    row [Item.buttonIf idle "Refresh" .refresh, Item.buttonIf idle "Clear" .clear,
      Item.button "Stats" .loadStats]]

def filterControls (v : Viewer) : List Piece :=
  [label "Filters", row (NodeKind.known.map fun kind => Item.button kind.tag (.allow kind)),
    label "Name or path contains", label v.session.criteria.term,
    button "Show lint errors" .showErrors, button "Show call links" .showCalls]

/-- Whether the characters of a query stand in a text in their order, without regard to the case
of ASCII letters. -/
def scattered : List Char → List Char → Bool
  | [], _ => true
  | _ :: _, [] => false
  | q :: qs, c :: cs => if q.toLower = c.toLower then scattered qs cs else scattered (q :: qs) cs

def quickFindRows : Nat := 8

def quickFound (v : Viewer) (query : String) : List (String × String) :=
  let labelled := v.engine.bodies.toList.map fun b => (b.id, Scene.labelOf v.snapshot b.id)
  let found := labelled.filter fun e => scattered query.toList e.2.toList
  (found.mergeSort fun a b => !(b.2 < a.2)).take quickFindRows

def quickFindControls (v : Viewer) : List Piece :=
  let query := Text.trim v.quickFind
  [label "Quick find", label v.quickFind] ++
  if query = "" then []
  else match v.quickFound query with
    | [] => [label "No visible node matches."]
    | found => found.map fun e => button e.2 (.visit e.1)

def nodeWords (name kind : String) : String := name ++ "  (" ++ kind ++ ")"

def searchControls (v : Viewer) : List Piece :=
  [label "Search backend", row [Item.label v.serverQuery, Item.button "Search" .search]] ++
  v.session.found.map fun n => button (nodeWords n.label n.kind.tag) (.visit n.id)

def selectionControls (v : Viewer) : List Piece :=
  [label "Selection",
    match v.selected with
    | none => label "Click a node to select it; double-click to center on it."
    | some id =>
      row [Item.button s!"Prune (depth {v.session.limits.pruneDepth})" (.prune id),
        Item.button "Subgraph" (.subgraph id), Item.button "Path from" (.pathFrom id),
        Item.button "Path to" (.pathTo id), Item.button "Deselect" .deselect]]

def folded (unfolded : List Fold) (fold : Fold) (content : List Block) : Piece :=
  .part fold (if unfolded.contains fold then content else [])

def pathControls (v : Viewer) : List Block :=
  let ready := Text.trim v.pathSource ≠ "" && Text.trim v.pathTarget ≠ ""
  [.row [Item.label "From", Item.label v.pathSource],
    .row [Item.label "To", Item.label v.pathTarget],
    .row (Item.buttonIf ready "Find" .findPaths ::
      if v.session.paths.isEmpty then [] else [Item.button "Clear paths" .clearPaths])]

def layoutControls : List Piece :=
  [button "Live physics simulation" .livePhysics, button "FPS display" .frameRate,
    row [Item.button "Reheat" .reheat, Item.button "Reset view" .resetView]]

def slider (places : Nat) (name : String) (value : Float32) : Block :=
  .row [Item.label (Decimal.fixed32 places value), Item.label name]

def tuningControls (t : Layout.Tuning Float32) : List Block :=
  [slider 2 "Intensity" t.intensity, slider 2 "Repulsion" t.repulsion,
    slider 2 "Link spring" t.spring, slider 2 "Collision" t.collision,
    slider 3 "Velocity damping" t.damping]

def exportFormats : List ExportFormat := [.svg, .png, .json]

def exportControls (v : Viewer) : List Piece :=
  [label "Export",
    row (exportFormats.map fun f => Item.button f.name.toUpper (.exportLocal f)),
    row (Item.label "Backend:" ::
      exportFormats.map fun f => Item.button f.name (.exportFromServer f)),
    label ("Directory: " ++ v.exportDir)]

def controls (v : Viewer) (unfolded : List Fold) : List Piece :=
  v.graphControls ++ rule :: v.filterControls ++ rule :: v.quickFindControls ++
  rule :: v.searchControls ++
  rule :: v.selectionControls ++ folded unfolded .findPaths v.pathControls ::
  rule :: layoutControls ++ folded unfolded .tuning (tuningControls v.engine.tuning) ::
  rule :: v.exportControls

/-! ### The details -/

def valueBlock (t : Table) : Json → Block
  | .obj fields => .table t (fields.map fun f => (f.1, f.2.plainText))
  | other => .item (Item.label other.plainText)

def nodeBefore (a b : Node) : Bool :=
  a.label < b.label || (a.label = b.label &&
    (a.kind.tag < b.kind.tag || (a.kind.tag = b.kind.tag && a.id < b.id)))

def connectedNodes (v : Viewer) : List Node :=
  (v.highlight.neighbors.filterMap v.snapshot.node?).mergeSort fun a b => !nodeBefore b a

def detailPiece (v : Viewer) (unfolded : List Fold) (id : String) : Piece :=
  match v.session.details.filter (·.id = id) with
  | some d => folded unfolded .details [valueBlock .details d.value]
  | none => row [Item.rule, Item.label "Loading details..."]

def nodePieces (v : Viewer) (unfolded : List Fold) (n : Node) : List Piece :=
  [label n.label, label (n.kind.tag ++ "  |  " ++ n.id)] ++ n.path?.toList.map label ++
  (if n.properties.isEmpty then []
    else [folded unfolded .properties [valueBlock .properties (.obj n.properties)]]) ++
  [v.detailPiece unfolded n.id,
    label s!"Connected nodes ({v.connectedNodes.length})",
    row (v.connectedNodes.map fun m => Item.button (nodeWords m.label m.kind.tag) (.visit m.id))]

def selectedPieces (v : Viewer) (unfolded : List Fold) : List Piece :=
  match v.selected with
  | none => [label "Select a node on the canvas or from a search."]
  | some id =>
    match v.snapshot.node? id with
    | none => [label "Selected node no longer exists in the graph."]
    | some n => v.nodePieces unfolded n

def pathWords (v : Viewer) (path : List String) : String :=
  " → ".intercalate (path.map (Scene.labelOf v.snapshot))

def pathPieces (v : Viewer) : List Piece :=
  [label s!"Paths ({v.session.paths.length})"] ++
  if v.session.paths.isEmpty then
    [label "Use \"Find paths\" to trace connections between two nodes."]
  else v.session.paths.map fun p => label (v.pathWords p)

def statsPieces (v : Viewer) : List Piece :=
  [label "Graph statistics",
    match v.session.stats with
    | some stats => .block (valueBlock .stats stats)
    | none => label "No statistics loaded."]

def details (v : Viewer) (unfolded : List Fold) : List Piece :=
  [label "Selection Details"] ++ v.selectedPieces unfolded ++ rule :: v.pathPieces ++
  rule :: v.statsPieces

def panels (v : Viewer) (reconnects : Nat) (unfolded : List Fold) : List (Panel × List Piece) :=
  [(.bar, v.bar reconnects), (.banner, v.banner), (.controls, v.controls unfolded),
    (.details, v.details unfolded)]

end Viewer

end CodeAtlas
