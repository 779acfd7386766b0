import CodeAtlas.Graph.View
import CodeAtlas.TextSet

/-!
Emphasis around a node in focus and along a path. With neither, everything has its plain look;
else what is not near the focus or on the path is dimmed.
-/
namespace CodeAtlas

def dimmedOpacity : Float32 := 0.15

structure NodeEmphasis where
  opacity : Float32
  focused : Bool
  onPath : Bool
  deriving DecidableEq

namespace NodeEmphasis

def plain : NodeEmphasis := ⟨1.0, false, false⟩

def isDimmed (e : NodeEmphasis) : Bool := decide (e.opacity < 1.0)

end NodeEmphasis

structure LinkEmphasis where
  width : Float32
  opacity : Float32
  highlighted : Bool
  deriving DecidableEq

namespace LinkEmphasis

def plain : LinkKind → LinkEmphasis
  | .contains => ⟨1.6, 0.6, false⟩
  | .hasMethod => ⟨1.3, 0.6, false⟩
  | .calls => ⟨1.0, 0.35, false⟩
  | .hasError => ⟨1.0, 0.8, false⟩
  | .other _ => ⟨1.0, 0.5, false⟩

def strong (kind : LinkKind) : LinkEmphasis := ⟨(plain kind).width * 2.0 + 0.5, 1.0, true⟩

def dimmed (kind : LinkKind) : LinkEmphasis := { plain kind with opacity := dimmedOpacity }

end LinkEmphasis

structure Highlight where
  focus : Option String := none
  neighbors : TextSet := []
  path : List String := []
  deriving DecidableEq, Repr

namespace Highlight

/-- The other end of a link at `focus`, unless the link is a loop. -/
def acrossFrom (focus : String) (l : Link) : Option String :=
  let other :=
    if l.source.id = focus then some l.target.id
    else if l.target.id = focus then some l.source.id
    else none
  other.filter (· ≠ focus)

def neighborsOf (focus : String) (links : List Link) : TextSet :=
  (links.filterMap (acrossFrom focus)).foldl (fun s id => TextSet.insert id s) []

def setFocus (focus : Option String) (links : List Link) (h : Highlight) : Highlight :=
  { h with
    focus
    neighbors := match focus with
      | some id => neighborsOf id links
      | none => [] }

/-- Only links that are shown make neighbours. -/
def focusInView (focus : Option String) (v : View) (h : Highlight) : Highlight :=
  h.setFocus focus v.links

def clearFocus (h : Highlight) : Highlight := h.setFocus none []

def setPath (path : Option (List String)) (h : Highlight) : Highlight :=
  { h with path := path.getD [] }

def isActive (h : Highlight) : Bool := h.focus.isSome || !h.path.isEmpty

def nodeEmphasis (h : Highlight) (id : String) : NodeEmphasis :=
  if !h.isActive then .plain
  else
    let focused := h.focus = some id
    let onPath := h.path.contains id
    let near := focused || onPath || h.neighbors.contains id
    ⟨if near then 1.0 else dimmedOpacity, focused, onPath⟩

def consecutive (a b : String) : List String → Bool
  | p :: q :: rest =>
    (p = a && q = b) || (p = b && q = a) || consecutive a b (q :: rest)
  | _ => false

def emphasisBetween (h : Highlight) (source target : String) (kind : LinkKind) : LinkEmphasis :=
  if !h.isActive then .plain kind
  else if h.focus = some source || h.focus = some target || consecutive source target h.path then
    .strong kind
  else .dimmed kind

def linkEmphasis (h : Highlight) (l : Link) : LinkEmphasis :=
  h.emphasisBetween l.source.id l.target.id l.kind

end Highlight

end CodeAtlas
