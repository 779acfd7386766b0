import CodeAtlas.Graph.Document
import CodeAtlas.Picture.Raster
import CodeAtlas.Session
import CodeAtlas.Viewer.Meter

/-!
The viewer: a session, the layout of what it shows, the camera and the emphasis. Before each frame
the layout and the emphasis are brought in line with the session.
-/
namespace CodeAtlas

structure SyncKey where
  revision : UInt64
  criteria : Criteria
  deriving DecidableEq, Repr

structure Viewer where
  session : Session
  engine : Layout.Engine Float32
  camera : Camera Float Float32 := .initial
  highlight : Highlight := {}
  synced : Option SyncKey := none
  viewport : Vec Float32 := .zero
  shownNodes : Nat := 0
  shownLinks : Nat := 0
  livePhysics : Bool := true
  /-- The node that is being dragged. -/
  dragging : Option String := none
  quickFind : String := ""
  serverQuery : String := ""
  pathSource : String := ""
  pathTarget : String := ""
  exportDir : String := "."
  notice : Option String := none
  showFrameRate : Bool := false
  meter : FrameMeter := {}
  /-- The files within reach. -/
  disk : Disk := {}
  /-- What was asked of the world and not yet carried out. -/
  outbox : List Errand := []

namespace Viewer

def ofSettings (s : Settings) (disk : Disk) : Viewer :=
  { session := { limits := s.queryLimits }, engine := .new s.tuning, exportDir := s.exportDir, disk }

/-! ### The session -/

def act (action : Session → Session.Result) (v : Viewer) : Viewer :=
  let (session, errands) := action v.session
  { v with session, outbox := v.outbox ++ errands }

def amend (action : Session → Session) (v : Viewer) : Viewer :=
  { v with session := action v.session }

def opened (s : Settings) (disk : Disk) : Viewer :=
  (((ofSettings s disk).act Session.connect).act Session.refresh).act Session.loadStats

def takeOutbox (v : Viewer) : Viewer × List Errand := ({ v with outbox := [] }, v.outbox)

def snapshot (v : Viewer) : Snapshot := v.session.store.snapshot

def selected (v : Viewer) : Option String := v.session.selection.selected

def view (v : Viewer) : View := View.of v.snapshot v.session.criteria

def visibleText (v : Viewer) : String :=
  let nodes := v.snapshot.nodes.length
  let links := v.snapshot.links.length
  s!"visible: {v.shownNodes} / {nodes} nodes, {v.shownLinks} / {links} links"

def frameRate? (v : Viewer) : Option String := if v.showFrameRate then v.meter.text? else none

/-! ### Staying in line with the session -/

def serverFile (format : ExportFormat) : String := "codebase-graph-server." ++ format.name

def saveServerExport (v : Viewer) : Viewer :=
  match v.session.takeArtifact with
  | (_, none) => v
  | (session, some (format, artifact)) =>
    let (disk, written) := v.disk.save v.exportDir (serverFile format) artifact.bytes
    { v with
      session
      disk
      notice := some (match written with
        | .ok path => "Saved server export to " ++ path
        | .error why => "Saving server export failed: " ++ why.message) }

def syncKey (v : Viewer) : SyncKey := ⟨v.session.store.revision, v.session.criteria⟩

def isStale (v : Viewer) (viewport : Vec Float32) : Bool :=
  v.synced ≠ some v.syncKey || !v.viewport.same viewport

/-- Emphasises what is in focus and the first of the paths. The neighbours are found anew if the
focus moved, or if `force` says so. -/
def refreshHighlight (force : Bool) (v : Viewer) : Viewer :=
  let focus := v.session.selection.focus
  let highlight :=
    if force || v.highlight.focus ≠ focus then v.highlight.focusInView focus v.view
    else v.highlight
  { v with highlight := highlight.setPath v.session.paths.head? }

/-- Lays out what is shown now. A node that is no longer laid out is no longer dragged. -/
def layOut (viewport : Vec Float32) (v : Viewer) : Viewer :=
  let view := v.view
  let engine := (v.engine.sync view viewport).1
  { v with
    engine
    viewport
    shownNodes := view.nodes.length
    shownLinks := view.links.length
    synced := some v.syncKey
    dragging := v.dragging.filter fun id => (engine.indexOf? id).isSome }

/-- Takes what has arrived, and brings layout and emphasis in line with it. -/
def sync (inbox : List Message) (viewport : Vec Float32) (v : Viewer) : Viewer :=
  let v := (v.act (Session.receiveAll inbox)).saveServerExport
  if v.isStale viewport then (v.layOut viewport).refreshHighlight true
  else v.refreshHighlight false

/-! ### Actions -/

def selectAndCenter (id : String) (now : Float) (v : Viewer) : Viewer :=
  let v := v.act (Session.select (some id))
  match v.engine.position? id with
  | some p => { v with camera := v.camera.recenter p v.viewport now }
  | none => v

def scene (v : Viewer) : Scene :=
  .capture v.engine v.snapshot v.highlight v.selected v.camera.transform v.viewport

def localFile (format : ExportFormat) : String := "codebase-graph." ++ format.name

def exported (v : Viewer) (format : ExportFormat) : Except Failure Text.Bytes :=
  match format with
  | .svg => .ok (Text.utf8 (Svg.render v.scene))
  | .png => (Raster.render (Svg.render v.scene) v.scene.width v.scene.height).map Image.pngHead
  | .json => .ok (Text.utf8 (Document.text v.snapshot.toPayload))

def exportLocal (format : ExportFormat) (v : Viewer) : Viewer :=
  match v.exported format with
  | .error why => { v with notice := some ("Export failed: " ++ why.message) }
  | .ok bytes =>
    let (disk, written) := v.disk.save v.exportDir (localFile format) bytes
    { v with
      disk
      notice := some (match written with
        | .ok path => "Exported " ++ path
        | .error why => "Export failed: " ++ why.message) }

end Viewer

end CodeAtlas
