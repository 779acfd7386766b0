import CodeAtlas.Graph.Wire
import CodeAtlas.Json.Access
import CodeAtlas.Json.Printer
import CodeAtlas.Net.Url

/-!
What the viewer asks of the backend, and the requests that it sends for that.
-/
namespace CodeAtlas

structure SubgraphOptions where
  depth : Option Nat := none
  linkKinds : List LinkKind := []
  includeErrors : Bool := false
  deriving DecidableEq, Repr

def SubgraphOptions.toJson (o : SubgraphOptions) : Json :=
  .object <|
    (match o.depth with
      | some d => [("depth", .ofNat d)]
      | none => []) ++
    (if o.linkKinds.isEmpty then []
      else [("relationship_types", .arr (o.linkKinds.map LinkKind.toJson))]) ++
    [("include_errors", .bool o.includeErrors)]

def SubgraphOptions.ofJson (j : Json) : SubgraphOptions where
  depth := j.nat? "depth"
  linkKinds := (j.textsAt "relationship_types").map .ofTag
  includeErrors := j.boolAt "include_errors"

structure SearchFilters where
  kinds : List NodeKind := []
  limit : Option Nat := none
  deriving DecidableEq, Repr

def SearchFilters.toJson (f : SearchFilters) : Json :=
  .object <|
    (if f.kinds.isEmpty then [] else [("node_types", .arr (f.kinds.map NodeKind.toJson))]) ++
    (match f.limit with
      | some n => [("limit", .ofNat n)]
      | none => [])

def SearchFilters.ofJson (j : Json) : SearchFilters where
  kinds := (j.textsAt "node_types").map .ofTag
  limit := j.nat? "limit"

inductive ExportFormat where
  | svg
  | png
  | json
  deriving DecidableEq, Repr

def ExportFormat.name : ExportFormat → String
  | .svg => "svg"
  | .png => "png"
  | .json => "json"

def ExportFormat.ofName (name : String) : ExportFormat :=
  ([.svg, .png, .json].find? fun f : ExportFormat => f.name = name).getD .svg

structure Artifact where
  contentType : Option String
  bytes : Text.Bytes
  deriving DecidableEq, Repr

def Artifact.toJson (a : Artifact) : Json :=
  .object [("content_type", (a.contentType.map Json.str).getD .null),
    ("hex", .str (Text.hexBytes a.bytes))]

def Artifact.ofJson (j : Json) : Artifact :=
  ⟨j.text? "content_type", (Text.bytesOfHex? (j.textAt "hex")).getD []⟩

inductive GraphRequest where
  | refresh
  | clear
  | prune (id : String) (depth : Nat)
  | subgraph (id : String) (options : SubgraphOptions)
  deriving DecidableEq, Repr

inductive Call where
  | graph (request : GraphRequest)
  | stats
  | paths (source target : String) (maxLength : Nat)
  | search (query : String) (filters : SearchFilters)
  | details (id : String)
  | artifact (format : ExportFormat)
  deriving DecidableEq, Repr

/-- A request before it has an address: its method, its path, perhaps a pair of the query, and
perhaps a body. -/
structure Request where
  method : String
  path : String
  query : Option (String × String) := none
  body : Option Json := none

inductive Unsendable where
  /-- The address cannot be read. -/
  | unreadable
  /-- The address is none that requests are sent to. -/
  | unfit (url : Net.Url)
  deriving DecidableEq, Repr

def Unsendable.message : Unsendable → String
  | .unreadable => "builder error"
  | .unfit url => s!"builder error for url ({url.text})"

namespace Request

def address (r : Request) (base : String) : Except Unsendable Net.Url :=
  match Net.Url.parse? (base ++ r.path) with
  | none => .error .unreadable
  | some u =>
    if !u.hasHost then .error (.unfit u)
    else
      let u := match r.query with
        | some (name, value) => u.addQuery name value
        | none => u
      if u.isHttp then .ok u else .error (.unfit u)

end Request

namespace Call

def request : Call → Request
  | .graph .refresh => { method := "GET", path := "/api/graph" }
  | .graph .clear => { method := "DELETE", path := "/api/graph/clear" }
  | .graph (.prune id depth) =>
    { method := "POST", path := "/api/graph/prune"
      body := some (.object [("node_id", .str id), ("depth", .ofNat depth)]) }
  | .graph (.subgraph id options) =>
    { method := "POST", path := "/api/graph/subgraph"
      body := some (.object [("node_id", .str id), ("options", options.toJson)]) }
  | .stats => { method := "GET", path := "/api/graph/stats" }
  | .paths source target maxLength =>
    { method := "POST", path := "/api/graph/paths"
      body := some (.object [("source_id", .str source), ("target_id", .str target),
        ("max_length", .ofNat maxLength)]) }
  | .search query filters =>
    { method := "POST", path := "/api/graph/search"
      body := some (.object [("query", .str query), ("filters", filters.toJson)]) }
  | .details id => { method := "GET", path := "/api/graph/node/" ++ id }
  | .artifact format =>
    { method := "GET", path := "/api/graph/export", query := some ("format", format.name) }

end Call

end CodeAtlas
