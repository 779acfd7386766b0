import CodeAtlas.Graph.Snapshot
import CodeAtlas.Text.Blank
import CodeAtlas.Text.Lowercase

/-!
The part of a graph that meets the user's criteria.
-/
namespace CodeAtlas

structure Criteria where
  allowed : KindSet := NodeKind.known
  term : String := ""
  showErrors : Bool := true
  showCalls : Bool := true
  deriving DecidableEq, Repr

namespace Criteria

def occursIn (needle : List Char) : List Char → Bool
  | [] => needle.isEmpty
  | c :: cs => needle.isPrefixOf (c :: cs) || occursIn needle cs

def searched (n : Node) : List String := n.name?.toList ++ n.path?.toList

/-- A blank term finds every node; else the term, trimmed and without regard to case, stands in
the name or the path. -/
def termPasses (c : Criteria) (n : Node) : Bool :=
  let term := Text.trim c.term
  term.isEmpty ||
    (searched n).any fun text => occursIn (Text.lowercase term).toList (Text.lowercase text).toList

def nodePasses (c : Criteria) (n : Node) : Bool :=
  c.allowed.contains n.kind && (c.showErrors || n.kind ≠ .lintError) && c.termPasses n

def kindPasses (c : Criteria) (kind : LinkKind) : Bool := c.showCalls || kind ≠ .calls

end Criteria

structure View where
  nodes : List Node
  links : List Link

namespace View

/-- The nodes that pass, in the order of their identities, and the links between them that pass. -/
def of (s : Snapshot) (c : Criteria) : View :=
  let nodes := s.nodes.values.filter c.nodePasses
  let shown := nodes.map (·.id)
  { nodes
    links := s.links.filter fun l =>
      shown.contains l.source.id && shown.contains l.target.id && c.kindPasses l.kind }

end View

end CodeAtlas
