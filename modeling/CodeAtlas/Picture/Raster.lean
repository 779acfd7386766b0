import CodeAtlas.Failure
import CodeAtlas.Picture.Extent
import CodeAtlas.Picture.Svg
import CodeAtlas.Text.Utf8
import CodeAtlas.Xml.Document

/-!
Pixel images of SVG documents, as far as they depend on the document alone: whether it can be
drawn, and the size of the image. The pixels are not part of this.
-/
namespace CodeAtlas

open Text (Bytes)

structure Image where
  width : Nat
  height : Nat
  deriving DecidableEq, Repr

namespace Image

def pngSignature : Bytes := [0x89, 0x50, 0x4E, 0x47, 0x0D, 0x0A, 0x1A, 0x0A]

def bigEndian (n : Nat) : Bytes :=
  [n / Nat.pow 2 24, n / Nat.pow 2 16, n / Nat.pow 2 8, n].map UInt8.ofNat

def pngHead (i : Image) : Bytes :=
  pngSignature ++ bigEndian 13 ++ Text.utf8 "IHDR" ++ bigEndian i.width ++ bigEndian i.height ++
    [8, 6, 0, 0, 0]

end Image

namespace Raster

def svgSpace : String := "http://www.w3.org/2000/svg"

def elements : List String :=
  ["a", "circle", "clipPath", "defs", "ellipse", "feBlend", "feColorMatrix", "feComponentTransfer",
    "feComposite", "feConvolveMatrix", "feDiffuseLighting", "feDisplacementMap", "feDistantLight",
    "feDropShadow", "feFlood", "feFuncA", "feFuncB", "feFuncG", "feFuncR", "feGaussianBlur",
    "feImage", "feMerge", "feMergeNode", "feMorphology", "feOffset", "fePointLight",
    "feSpecularLighting", "feSpotLight", "feTile", "feTurbulence", "filter", "g", "image", "line",
    "linearGradient", "marker", "mask", "path", "pattern", "polygon", "polyline",
    "radialGradient", "rect", "stop", "svg", "switch", "symbol", "text", "textPath", "tref",
    "tspan", "use"]

def isKnown (space : Option String) (name : String) : Bool :=
  space = some svgSpace && elements.contains name

def isWhole (name : String) : Bool := name = "text" || name = "use"

/-- Whether nothing that is drawn stands deeper than so many levels. -/
def fitsIn : Nat → Xml.Node → Bool
  | 0, _ => false
  | depth + 1, .element space name _ children =>
    !isKnown space name || isWhole name || children.all (fitsIn depth)
  | _ + 1, _ => true

def maxDepth : Nat := 1025

def root? (nodes : List Xml.Node) : Option (List Xml.Attribute) :=
  nodes.findSome? (fun
    | .element space name attrs _ => if isKnown space name then some (name, attrs) else none
    | _ => none) |>.bind fun (name, attrs) => if name = "svg" then some attrs else none

def isDrawable (svg : String) : Bool :=
  match Xml.document? svg with
  | none => false
  | some nodes => nodes.all (fitsIn maxDepth) && ((root? nodes).bind Svg.size?).isSome

def maxWidth : Nat := 536870911

def render (svg : String) (width height : Nat) : Except Failure Image :=
  if !isDrawable svg then .error (.exporting "invalid SVG")
  else if max width 1 > maxWidth then
    .error (.exporting s!"cannot allocate {width}x{height} image")
  else .ok ⟨max width 1, max height 1⟩

end Raster

end CodeAtlas
