import CodeAtlas.Graph.Kind
import CodeAtlas.Json.Value
import CodeAtlas.Text.Label

/-!
Nodes, links and the documents that carry them. A link names each of its ends by an identity, or
holds the whole node; what a link joins is the two identities in either case.
-/
namespace CodeAtlas

structure Node where
  id : String
  kind : NodeKind
  properties : Dict Json := []

namespace Node

def text? (n : Node) (key : String) : Option String := (n.properties.find? key).bind Json.str?

def name? (n : Node) : Option String := n.text? "name"

def path? (n : Node) : Option String := n.text? "path"

/-- The name, else the last part of the path, else the identity. -/
def label (n : Node) : String :=
  match n.name?, n.path? with
  | some name, _ => name
  | none, some path => Text.lastPart path
  | none, none => n.id

end Node

inductive Endpoint where
  | bare (id : String)
  | embedded (id : String) (rest : Dict Json)

def Endpoint.id : Endpoint → String
  | .bare id => id
  | .embedded id _ => id

structure LinkKey where
  source : String
  target : String
  kind : LinkKind
  deriving DecidableEq, Repr

structure Link where
  source : Endpoint
  target : Endpoint
  kind : LinkKind

namespace Link

def key (l : Link) : LinkKey := ⟨l.source.id, l.target.id, l.kind⟩

def touches (l : Link) (id : String) : Bool := l.source.id = id || l.target.id = id

end Link

structure Payload where
  nodes : List Node := []
  links : List Link := []

end CodeAtlas
