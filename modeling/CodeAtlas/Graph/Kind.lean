import CodeAtlas.Geometry.Scalar

/-!
Kinds of nodes and of links. A tag that is not known is kept as it came.
-/
namespace CodeAtlas

inductive NodeKind where
  | file
  | classDef
  | method
  | function
  | lintError
  | other (tag : String)
  deriving DecidableEq, Repr

namespace NodeKind

def known : List NodeKind := [.file, .classDef, .method, .function, .lintError]

def tag : NodeKind → String
  | .file => "File"
  | .classDef => "Class"
  | .method => "Method"
  | .function => "Function"
  | .lintError => "LintError"
  | .other tag => tag

def ofTag (tag : String) : NodeKind :=
  match known.find? (·.tag = tag) with
  | some kind => kind
  | none => .other tag

/-- The place of a kind in the order; other tags share the last one. -/
def rank : NodeKind → Nat
  | .file => 0
  | .classDef => 1
  | .method => 2
  | .function => 3
  | .lintError => 4
  | .other _ => 5

def before (a b : NodeKind) : Bool :=
  a.rank < b.rank || (a.rank == b.rank && a.tag < b.tag)

variable {α : Type} [Scalar α]

def radius : NodeKind → α
  | .file => Scalar.ofNat 14
  | .classDef => Scalar.ofNat 11
  | .method | .function => Scalar.ofNat 8
  | .lintError => Scalar.ofNat 6
  | .other _ => Scalar.ofNat 7

def weight : NodeKind → α
  | .file => Scalar.decimal 18 1
  | .classDef => Scalar.decimal 14 1
  | .method | .function | .other _ => Scalar.ofNat 1
  | .lintError => Scalar.decimal 6 1

end NodeKind

abbrev KindSet := List NodeKind

namespace KindSet

def insert (kind : NodeKind) : KindSet → KindSet
  | [] => [kind]
  | k :: ks =>
    if kind.before k then kind :: k :: ks
    else if kind = k then k :: ks
    else k :: insert kind ks

def erase (kind : NodeKind) (s : KindSet) : KindSet := s.filter (· ≠ kind)

def ofList (kinds : List NodeKind) : KindSet := kinds.foldl (fun s k => insert k s) []

end KindSet

inductive LinkKind where
  | contains
  | hasMethod
  | calls
  | hasError
  | other (tag : String)
  deriving DecidableEq, Repr

namespace LinkKind

def known : List LinkKind := [.contains, .hasMethod, .calls, .hasError]

def tag : LinkKind → String
  | .contains => "CONTAINS"
  | .hasMethod => "HAS_METHOD"
  | .calls => "CALLS"
  | .hasError => "HAS_ERROR"
  | .other tag => tag

def ofTag (tag : String) : LinkKind :=
  match known.find? (·.tag = tag) with
  | some kind => kind
  | none => .other tag

def rank : LinkKind → Nat
  | .contains => 0
  | .hasMethod => 1
  | .calls => 2
  | .hasError => 3
  | .other _ => 4

/-- The rest length of a link, before the radii of its two nodes are added. Containment is tight,
calls may span clusters. -/
def restLength {α : Type} [Scalar α] : LinkKind → α
  | .contains => Scalar.ofNat 70
  | .hasMethod => Scalar.ofNat 55
  | .hasError => Scalar.ofNat 40
  | .calls => Scalar.ofNat 150
  | .other _ => Scalar.ofNat 100

end LinkKind

end CodeAtlas
