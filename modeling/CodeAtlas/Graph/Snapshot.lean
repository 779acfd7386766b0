import CodeAtlas.Graph.Node

/-!
A whole graph at one moment: nodes under their identities, and links whose ends are all there.
-/
namespace CodeAtlas

structure Snapshot where
  nodes : Dict Node := []
  links : List Link := []

namespace Snapshot

def empty : Snapshot := {}

def node? (s : Snapshot) (id : String) : Option Node := s.nodes.find? id

def contains (s : Snapshot) (id : String) : Bool := s.nodes.contains id

def isEmpty (s : Snapshot) : Bool := s.nodes.isEmpty && s.links.isEmpty

def joins (s : Snapshot) (l : Link) : Bool := s.contains l.source.id && s.contains l.target.id

/-- A node that is there already stays as it is. -/
def insertNode (n : Node) (s : Snapshot) : Snapshot :=
  if s.contains n.id then s else { s with nodes := s.nodes.insert n.id n }

/-- The node goes, and with it every link at it. -/
def eraseNode (id : String) (s : Snapshot) : Snapshot :=
  if s.contains id then
    { nodes := s.nodes.erase id, links := s.links.filter fun l => !l.touches id }
  else s

def addLink (l : Link) (s : Snapshot) : Snapshot := { s with links := s.links ++ [l] }

def eraseLinks (key : LinkKey) (s : Snapshot) : Snapshot :=
  { s with links := s.links.filter fun l => l.key ≠ key }

/-- The graph of a document: of several nodes with one identity the first stays, and links without
both ends are left out. -/
def ofPayload (p : Payload) : Snapshot :=
  let s := p.nodes.foldl (fun s n => s.insertNode n) empty
  { s with links := p.links.filter s.joins }

def droppedLinks (p : Payload) : Nat := p.links.length - (ofPayload p).links.length

def toPayload (s : Snapshot) : Payload := ⟨s.nodes.values, s.links⟩

end Snapshot

end CodeAtlas
