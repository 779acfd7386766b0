import CodeAtlas.Geometry.Vec
import CodeAtlas.Graph.View
import CodeAtlas.Hash.Feed
import CodeAtlas.Hash.Sip

/-!
A number for the structure of a view: which nodes and links it shows, whatever their properties.
-/
namespace CodeAtlas

open Hash (feedNat feedText)

def NodeKind.feed (k : NodeKind) : List UInt8 :=
  feedNat k.rank ++ match k with
    | .other tag => feedText tag
    | _ => []

def LinkKind.feed (k : LinkKind) : List UInt8 :=
  feedNat k.rank ++ match k with
    | .other tag => feedText tag
    | _ => []

def LinkKey.feed (k : LinkKey) : List UInt8 := feedText k.source ++ feedText k.target ++ k.kind.feed

namespace View

def feed (v : View) : List UInt8 :=
  feedNat v.nodes.length ++ v.nodes.flatMap (fun n => feedText n.id ++ n.kind.feed) ++
    feedNat v.links.length ++ v.links.flatMap (fun l => l.key.feed)

def fingerprint (v : View) : UInt64 := Hash.sip v.feed

end View

/-- A vector with sides from -1 to 1 that depends on a text alone. -/
def scatter {α : Type} [Scalar α] (id : String) : Vec α :=
  let h := (Hash.sip (feedText id)).toNat
  let side (n : Nat) : α := Scalar.fraction n * Scalar.ofNat 2 - Scalar.one
  ⟨side (h % Nat.pow 2 32), side (h / Nat.pow 2 32)⟩

end CodeAtlas
