import CodeAtlas.Graph.View
import CodeAtlas.Json.Shape

/-!
Nodes, links, documents and criteria as JSON values, in both directions.
-/
namespace CodeAtlas

open Json (Mismatch asText asBool asFields asListOf optional required itemAt noMore mismatch)

namespace NodeKind

def ofJson (j : Json) : Except Mismatch NodeKind := (asText j).map ofTag

def toJson (k : NodeKind) : Json := .str k.tag

end NodeKind

namespace LinkKind

def ofJson (j : Json) : Except Mismatch LinkKind := (asText j).map ofTag

def toJson (k : LinkKind) : Json := .str k.tag

end LinkKind

namespace Node

def ofJson : Json → Except Mismatch Node
  | .obj fields => do
    let id ← optional fields "id" asText
    let properties ← optional fields "properties" asFields
    let kind ← optional fields "type" NodeKind.ofJson
    return { id := ← required "id" id
             kind := ← required "type" kind
             properties := properties.getD [] }
  | .arr items => do
    let id ← itemAt items 0 "Node" 3 asText
    let kind ← itemAt items 1 "Node" 3 NodeKind.ofJson
    let properties ← match items[2]? with
      | some j => asFields j
      | none => pure []
    noMore items 3
    return { id, kind, properties }
  | j => mismatch j "struct Node"

def toJson (n : Node) : Json :=
  .obj [("id", .str n.id), ("properties", .obj n.properties), ("type", n.kind.toJson)]

end Node

namespace Endpoint

def ofJson : Json → Except Mismatch Endpoint
  | .str id => .ok (.bare id)
  | .obj fields =>
    match Dict.find? "id" fields with
    | some (.str id) => .ok (.embedded id (Dict.erase "id" fields))
    | _ => .error (.noVariant "Endpoint")
  | _ => .error (.noVariant "Endpoint")

def toJson : Endpoint → Json
  | .bare id => .str id
  | .embedded id rest => .obj (Dict.insert "id" (.str id) rest)

end Endpoint

namespace Link

def ofJson : Json → Except Mismatch Link
  | .obj fields => do
    let source ← optional fields "source" Endpoint.ofJson
    let target ← optional fields "target" Endpoint.ofJson
    let kind ← optional fields "type" LinkKind.ofJson
    return { source := ← required "source" source
             target := ← required "target" target
             kind := ← required "type" kind }
  | .arr items => do
    let source ← itemAt items 0 "Link" 3 Endpoint.ofJson
    let target ← itemAt items 1 "Link" 3 Endpoint.ofJson
    let kind ← itemAt items 2 "Link" 3 LinkKind.ofJson
    noMore items 3
    return { source, target, kind }
  | j => mismatch j "struct Link"

def toJson (l : Link) : Json :=
  .obj [("source", l.source.toJson), ("target", l.target.toJson), ("type", l.kind.toJson)]

end Link

namespace Payload

def ofJson : Json → Except Mismatch Payload
  | .obj fields => do
    let links ← optional fields "links" (asListOf Link.ofJson)
    let nodes ← optional fields "nodes" (asListOf Node.ofJson)
    return { nodes := nodes.getD [], links := links.getD [] }
  | .arr items => do
    let nodes ← match items[0]? with
      | some j => asListOf Node.ofJson j
      | none => pure []
    let links ← match items[1]? with
      | some j => asListOf Link.ofJson j
      | none => pure []
    noMore items 2
    return { nodes, links }
  | j => mismatch j "struct GraphPayload"

def toJson (p : Payload) : Json :=
  .obj [("links", .arr (p.links.map Link.toJson)), ("nodes", .arr (p.nodes.map Node.toJson))]

end Payload

namespace Criteria

def kindsOfJson (j : Json) : Except Mismatch KindSet :=
  (asListOf NodeKind.ofJson j).map KindSet.ofList

def ofJson : Json → Except Mismatch Criteria
  | .obj fields => do
    let allowed ← optional fields "allowedTypes" kindsOfJson
    let term ← optional fields "searchTerm" asText
    let showCalls ← optional fields "showCalls" asBool
    let showErrors ← optional fields "showErrors" asBool
    return { allowed := ← required "allowedTypes" allowed
             term := ← required "searchTerm" term
             showErrors := ← required "showErrors" showErrors
             showCalls := ← required "showCalls" showCalls }
  | .arr items => do
    let allowed ← itemAt items 0 "FilterCriteria" 4 kindsOfJson
    let term ← itemAt items 1 "FilterCriteria" 4 asText
    let showErrors ← itemAt items 2 "FilterCriteria" 4 asBool
    let showCalls ← itemAt items 3 "FilterCriteria" 4 asBool
    noMore items 4
    return { allowed, term, showErrors, showCalls }
  | j => mismatch j "struct FilterCriteria"

def toJson (c : Criteria) : Json :=
  .obj [("allowedTypes", .arr (c.allowed.map NodeKind.toJson)), ("searchTerm", .str c.term),
    ("showCalls", .bool c.showCalls), ("showErrors", .bool c.showErrors)]

def ofPartialJson (j : Json) : Except Mismatch Criteria :=
  match j, Criteria.toJson {} with
  | .obj given, .obj defaults => ofJson (.obj (given.foldl (fun d f => Dict.insert f.1 f.2 d) defaults))
  | j, _ => ofJson j

end Criteria

end CodeAtlas
