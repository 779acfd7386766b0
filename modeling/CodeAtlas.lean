import CodeAtlas.Camera
import CodeAtlas.Decimal.Dyadic
import CodeAtlas.Decimal.Fixed
import CodeAtlas.Decimal.Nearest
import CodeAtlas.Decimal.Shortest
import CodeAtlas.Dict
import CodeAtlas.Disk
import CodeAtlas.Domain.DirectionTable
import CodeAtlas.Domain.FoldTable
import CodeAtlas.Domain.JoinTable
import CodeAtlas.Domain.Label
import CodeAtlas.Domain.Name
import CodeAtlas.Domain.Punycode
import CodeAtlas.Failure
import CodeAtlas.Geometry.Rect
import CodeAtlas.Geometry.Remainder
import CodeAtlas.Geometry.Scalar
import CodeAtlas.Geometry.Vec
import CodeAtlas.Graph.Document
import CodeAtlas.Graph.Fingerprint
import CodeAtlas.Graph.Highlight
import CodeAtlas.Graph.Kind
import CodeAtlas.Graph.Node
import CodeAtlas.Graph.Snapshot
import CodeAtlas.Graph.Store
import CodeAtlas.Graph.View
import CodeAtlas.Graph.Wire
import CodeAtlas.Hash.Feed
import CodeAtlas.Hash.Sip
import CodeAtlas.Json.Access
import CodeAtlas.Json.Printer
import CodeAtlas.Json.Reader
import CodeAtlas.Json.Shape
import CodeAtlas.Json.Value
import CodeAtlas.Layout.Engine
import CodeAtlas.Layout.Forces
import CodeAtlas.Layout.Physics
import CodeAtlas.Layout.Quadtree
import CodeAtlas.Net.Host
import CodeAtlas.Net.Status
import CodeAtlas.Net.Url
import CodeAtlas.Picture.Color
import CodeAtlas.Picture.Extent
import CodeAtlas.Picture.Raster
import CodeAtlas.Picture.Scene
import CodeAtlas.Picture.Svg
import CodeAtlas.Proofs.AddressPaths
import CodeAtlas.Proofs.AddressSites
import CodeAtlas.Proofs.Arrivals
import CodeAtlas.Proofs.CameraRuns
import CodeAtlas.Proofs.CellGeometry
import CodeAtlas.Proofs.Chronicle
import CodeAtlas.Proofs.CollisionPairs
import CodeAtlas.Proofs.ConnectedNodes
import CodeAtlas.Proofs.DeltaHistory
import CodeAtlas.Proofs.DeltaRuns
import CodeAtlas.Proofs.Dict
import CodeAtlas.Proofs.DiskFiles
import CodeAtlas.Proofs.DragEnergy
import CodeAtlas.Proofs.DraggedPins
import CodeAtlas.Proofs.EndpointForms
import CodeAtlas.Proofs.ErrorReplies
import CodeAtlas.Proofs.ExactNumbers
import CodeAtlas.Proofs.FeedReading
import CodeAtlas.Proofs.FeltBodies
import CodeAtlas.Proofs.FrameStream
import CodeAtlas.Proofs.GraphRevisions
import CodeAtlas.Proofs.GrownTrees
import CodeAtlas.Proofs.HeldPins
import CodeAtlas.Proofs.HighlightRuns
import CodeAtlas.Proofs.JsonMembers
import CodeAtlas.Proofs.LayoutPins
import CodeAtlas.Proofs.LayoutRuns
import CodeAtlas.Proofs.LayoutShows
import CodeAtlas.Proofs.LayoutStarts
import CodeAtlas.Proofs.NarrowedSearch
import CodeAtlas.Proofs.Neighbors
import CodeAtlas.Proofs.NodeAddresses
import CodeAtlas.Proofs.PairTraversal
import CodeAtlas.Proofs.PercentEscapes
import CodeAtlas.Proofs.PhysicsRange
import CodeAtlas.Proofs.ReplacedConnection
import CodeAtlas.Proofs.RequestCount
import CodeAtlas.Proofs.Retries
import CodeAtlas.Proofs.RevisionKeys
import CodeAtlas.Proofs.SearchAnswers
import CodeAtlas.Proofs.SelectionRuns
import CodeAtlas.Proofs.ServerExports
import CodeAtlas.Proofs.SessionRuns
import CodeAtlas.Proofs.Shutdown
import CodeAtlas.Proofs.StaleDetails
import CodeAtlas.Proofs.StoreRuns
import CodeAtlas.Proofs.SvgOutline
import CodeAtlas.Proofs.Teardown
import CodeAtlas.Proofs.TextBytes
import CodeAtlas.Proofs.TextParts
import CodeAtlas.Proofs.TreeMembers
import CodeAtlas.Proofs.TreeShape
import CodeAtlas.Proofs.UnrelatedDeltas
import CodeAtlas.Proofs.ViewLaws
import CodeAtlas.Proofs.ViewerRuns
import CodeAtlas.Proofs.WireRoundtrip
import CodeAtlas.Proofs.WorkerHistory
import CodeAtlas.Proofs.WorkerRuns
import CodeAtlas.Proofs.WrittenMarkup
import CodeAtlas.Push.Address
import CodeAtlas.Push.Event
import CodeAtlas.Push.Frame
import CodeAtlas.Push.Worker
import CodeAtlas.Rehearsal.Hub
import CodeAtlas.Rehearsal.Showing
import CodeAtlas.Rehearsal.Sitting
import CodeAtlas.Rehearsal.World
import CodeAtlas.Service.Call
import CodeAtlas.Service.Reply
import CodeAtlas.Session
import CodeAtlas.Settings
import CodeAtlas.Text.Blank
import CodeAtlas.Text.CaseTable
import CodeAtlas.Text.CodeTable
import CodeAtlas.Text.Composition
import CodeAtlas.Text.CompositionTable
import CodeAtlas.Text.Label
import CodeAtlas.Text.Lowercase
import CodeAtlas.Text.Parts
import CodeAtlas.Text.PrintTable
import CodeAtlas.Text.Quoted
import CodeAtlas.Text.Utf8
import CodeAtlas.TextSet
import CodeAtlas.Toml.Reader
import CodeAtlas.Toml.Scalar
import CodeAtlas.Toml.Value
import CodeAtlas.Viewer.Canvas
import CodeAtlas.Viewer.Meter
import CodeAtlas.Viewer.Paint
import CodeAtlas.Viewer.Panel
import CodeAtlas.Viewer.State
import CodeAtlas.Viewer.Window
import CodeAtlas.Xml.Document
import CodeAtlas.Xml.Name
import CodeAtlas.Xml.Node
import CodeAtlas.Xml.Reference
import CodeAtlas.Xml.Token
