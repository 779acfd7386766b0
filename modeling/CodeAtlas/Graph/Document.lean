import CodeAtlas.Graph.Wire
import CodeAtlas.Json.Printer

/-!
A graph as a document to be kept: nodes before links, and each with its identity first.
-/
namespace CodeAtlas

namespace Document

def ofNode (n : Node) : Json :=
  .obj [("id", .str n.id), ("type", n.kind.toJson), ("properties", .obj n.properties)]

def ofEndpoint : Endpoint → Json
  | .bare id => .str id
  | .embedded id rest => .obj (("id", .str id) :: rest)

def ofLink (l : Link) : Json :=
  .obj [("source", ofEndpoint l.source), ("target", ofEndpoint l.target), ("type", l.kind.toJson)]

def ofPayload (p : Payload) : Json :=
  .obj [("nodes", .arr (p.nodes.map ofNode)), ("links", .arr (p.links.map ofLink))]

def text (p : Payload) : String := (ofPayload p).pretty

end Document

end CodeAtlas
