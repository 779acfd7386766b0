import CodeAtlas.Xml.Reference

/-!
XML content as a tree. Labels of names are resolved to namespaces, and references to the text that
they stand for. The text of an entity may hold tags; it may close an element that was open before
it, after it has started one of its own, and leave elements open.
-/
namespace CodeAtlas.Xml

structure Attribute where
  space : Option String
  name : String
  value : String
  deriving DecidableEq, Repr

inductive Node where
  | element (space : Option String) (name : String) (attrs : List Attribute) (children : List Node)
  | text (cs : List Char)
  | remark

def Node.isElement : Node → Bool
  | .element .. => true
  | _ => false

/-! ### Namespaces -/

def xmlLabel : String := "xml"

def xmlSpace : String := "http://www.w3.org/XML/1998/namespace"

def declaring : String := "xmlns"

def declaringSpace : String := "http://www.w3.org/2000/xmlns/"

abbrev Spaces := List (String × String)

/-- Takes an attribute that may declare a namespace. A label is declared once in a tag. The
namespaces of XML itself are not declared, except that its label may be given its own. -/
def declare? (known : Spaces) (name : Name) (value : String) : Option Spaces :=
  if name.label = declaring then
    if value = declaringSpace || (name.base = xmlLabel) != (value = xmlSpace) ||
        (known.lookup name.base).isSome then none
    else some (if value = xmlSpace then known else known ++ [(name.base, value)])
  else if name.base = declaring then
    if value = xmlSpace || value = declaringSpace then none else some (known ++ [("", value)])
  else some known

def spaceOf? (spaces : Spaces) (label : String) : Option (Option String) :=
  match spaces.lookup label with
  | some space => some (some space)
  | none => if label = "" then some none else none

/-- The namespace of an attribute. A declared namespace without a label is not for attributes. -/
def attributeSpace? (spaces : Spaces) (label : String) : Option (Option String) :=
  if label = xmlLabel then some (some xmlSpace)
  else if label = "" then some none
  else spaceOf? spaces label

def resolve? (spaces : Spaces) (attrs : List (Name × String)) : Option (List Attribute) :=
  (attrs.filter fun a => a.1.label ≠ declaring && a.1.base ≠ declaring).foldlM
    (fun done a => do
      let space ← attributeSpace? spaces a.1.label
      if done.any fun d => d.space = space && d.name = a.1.base then none
      else return done ++ [⟨space, a.1.base, a.2⟩])
    []

/-! ### Growing -/

structure Opened where
  name : Name
  space : Option String
  attrs : List Attribute
  spaces : Spaces
  children : List Node

structure Growth where
  /-- From the innermost element out. -/
  opened : List Opened := []
  /-- What stands outside of all elements, from the last to the first. -/
  outside : List Node := []
  /-- Attributes of tags that were cut. They fall to the next tag. -/
  pending : List (Name × String) := []
  /-- Whether a tag has started in the text at hand. -/
  started : Bool := false
  /-- How often entities have referred to entities. -/
  references : Nat := 0

namespace Growth

def spaces (g : Growth) : Spaces := (g.opened.head?.map (·.spaces)).getD []

def join (node : Node) (nodes : List Node) : List Node :=
  match node, nodes with
  | .text cs, .text before :: rest => .text (before ++ cs) :: rest
  | node, nodes => node :: nodes

def add (node : Node) (g : Growth) : Growth :=
  match g.opened with
  | [] => { g with outside := join node g.outside }
  | o :: os => { g with opened := { o with children := join node o.children } :: os }

def settle (g : Growth) : Option (Spaces × List Attribute × Growth) := do
  let declared ← g.pending.foldlM (fun known a => declare? known a.1 a.2) []
  let spaces := declared ++ g.spaces.filter fun s => !declared.any (·.1 = s.1)
  return (spaces, ← resolve? spaces g.pending, { g with pending := [] })

def take (es : Entities) (room : Nat) (attrs : List (Name × List Char)) (g : Growth) :
    Option Growth :=
  attrs.foldlM
    (fun g a => do
      let (value, references) ← valueFrom es room g.references a.2
      return { g with pending := g.pending ++ [(a.1, String.ofList value)], references })
    g

def start (es : Entities) (room : Nat) (name : Name) (attrs : List (Name × List Char))
    (ending : Ending) (g : Growth) : Option Growth := do
  if name.label = declaring then none
  let g ← { g with started := true }.take es room attrs
  if ending = .cut then return g
  let (spaces, attrs, g) ← g.settle
  let space ← spaceOf? spaces name.label
  if ending = .empty then return g.add (.element space name.base attrs [])
  else return { g with opened := ⟨name, space, attrs, spaces, []⟩ :: g.opened }

def stop (name : Name) (g : Growth) : Option Growth := do
  if !g.started then none
  let (_, _, g) ← g.settle
  match g.opened with
  | [] => none
  | o :: os =>
    if o.name = name then
      return { g with opened := os }.add (.element o.space o.name.base o.attrs o.children.reverse)
    else none

/-- Adds a stretch of text. An entity is entered with the tokens of its text. -/
def addStretch (es : Entities) (room : Nat) (enter : Growth → List Token → Option Growth)
    (g : Growth) : Stretch → Option Growth
  | .text cs => some (g.add (.text cs))
  | .entity name => do
    let references ← countReference room g.references
    let (tokens, _) ← content? (← es.lookup name)
    let inner ← enter { g with references, started := false } tokens
    return { inner with
      references := afterReference room inner.references
      started := g.started }

def step (es : Entities) (room : Nat) (enter : Growth → List Token → Option Growth) (g : Growth) :
    Token → Option Growth
  | .start name attrs ending => g.start es room name attrs ending
  | .stop name => g.stop name
  | .text raw => do (stretches (← pieces? raw)).foldlM (addStretch es room enter) g
  | .data cs => some (g.add (.text (unifyBreaks cs)))
  | .remark => some (g.add .remark)

/-- Takes tokens one after another, where entities may still refer `room` deep to each other. -/
def grow (es : Entities) : Nat → Growth → List Token → Option Growth
  | 0, g, tokens => tokens.foldlM (step es 0 fun _ _ => none) g
  | room + 1, g, tokens => tokens.foldlM (step es (room + 1) (grow es room)) g

end Growth

def nodes? (es : Entities) (tokens : List Token) : Option (List Node) := do
  let g ← Growth.grow es maxDepth {} tokens
  if g.opened.isEmpty then return g.outside.reverse else none

end CodeAtlas.Xml
