import CodeAtlas.Graph.Snapshot
import CodeAtlas.Failure

/-!
The graph that the viewer holds, with its load status. Each change to the graph advances a
revision, so that views derived from it can tell whether they are stale.
-/
namespace CodeAtlas

inductive Delta where
  | nodeAdded (node : Node)
  | nodeRemoved (id : String)
  | linkAdded (link : Link)
  | linkRemoved (link : Link)

def Delta.name : Delta → String
  | .nodeAdded _ => "node_added"
  | .nodeRemoved _ => "node_removed"
  | .linkAdded _ => "link_added"
  | .linkRemoved _ => "link_removed"

inductive Outcome where
  | applied
  /-- There was nothing to do: the node is there already, or what should go is not there. -/
  | unchanged
  | rejected
  deriving DecidableEq, Repr

inductive Warning where
  | droppedLinks (count : Nat)
  | namelessNode
  | danglingLink (key : LinkKey)
  deriving DecidableEq, Repr

def Warning.message : Warning → String
  | .droppedLinks n =>
    s!"dropped links with missing endpoints while ingesting snapshot dropped={n}"
  | .namelessNode => "ignoring node without id delta=\"node_added\""
  | .danglingLink key =>
    (Failure.dangling key.source key.target key.kind.tag).message ++ " delta=\"link_added\""

structure Store where
  snapshot : Snapshot := .empty
  loading : Bool := false
  error : Option String := none
  revision : UInt64 := 0

namespace Store

def setLoading (loading : Bool) (s : Store) : Store := { s with loading }

def setError (error : Option String) (s : Store) : Store := { s with error }

def replace (snapshot : Snapshot) (s : Store) : Store :=
  { s with snapshot, revision := s.revision + 1 }

def clear (s : Store) : Store := s.replace .empty

/-- Why a delta is refused: a node without an identity, or a link without both ends. -/
def objection? (s : Store) : Delta → Option Warning
  | .nodeAdded n => if n.id = "" then some .namelessNode else none
  | .linkAdded l => if s.snapshot.joins l then none else some (.danglingLink l.key)
  | .nodeRemoved _ | .linkRemoved _ => none

/-- What a delta that is not refused does to the graph, or none if it does nothing. -/
def change? (g : Snapshot) : Delta → Option Snapshot
  | .nodeAdded n => if g.contains n.id then none else some (g.insertNode n)
  | .nodeRemoved id => if g.contains id then some (g.eraseNode id) else none
  | .linkAdded l => some (g.addLink l)
  | .linkRemoved l =>
    if g.links.any fun m => m.key = l.key then some (g.eraseLinks l.key) else none

def apply (d : Delta) (s : Store) : Store × Outcome :=
  if (s.objection? d).isSome then (s, .rejected)
  else match change? s.snapshot d with
    | some g => (s.replace g, .applied)
    | none => (s, .unchanged)

end Store

def Payload.warnings (p : Payload) : List Warning :=
  let n := Snapshot.droppedLinks p
  if n = 0 then [] else [.droppedLinks n]

end CodeAtlas
