import CodeAtlas.Decimal.Fixed
import CodeAtlas.Picture.Color
import CodeAtlas.Picture.Scene

/-!
A scene as an SVG document. A text inside it has its markup escaped, and loses the characters that
no XML document can hold.
-/
namespace CodeAtlas.Svg

/-- Characters that XML 1.0 cannot express, not even by their number. -/
def isForbidden (c : Char) : Bool :=
  (c.toNat < 0x20 && c != '\t' && c != '\n' && c != '\r') || c.toNat == 0xFFFE || c.toNat == 0xFFFF

def escapeChar (c : Char) : List Char :=
  match c with
  | '&' => "&amp;".toList
  | '<' => "&lt;".toList
  | '>' => "&gt;".toList
  | '"' => "&quot;".toList
  | '\x27' => "&apos;".toList
  | c => if isForbidden c then [] else [c]

def escape (s : String) : String := String.ofList (s.toList.flatMap escapeChar)

def number (x : Float32) : String := Decimal.fixed32 2 x

def attr (name value : String) : String := " " ++ name ++ "=\"" ++ value ++ "\""

def void (name : String) (attrs : List (String × String)) : String :=
  "<" ++ name ++ String.join (attrs.map fun a => attr a.1 a.2) ++ "/>\n"

def stroke (s : Stroke) : String :=
  void "line"
    [("x1", number s.start.x), ("y1", number s.start.y), ("x2", number s.stop.x),
      ("y2", number s.stop.y), ("stroke", s.kind.color.hex),
      ("stroke-width", number s.emphasis.width), ("stroke-opacity", number s.emphasis.opacity)]

def fill (d : Dot) : Color :=
  if d.selected then .selected
  else if d.emphasis.onPath then d.kind.color.blend .path 0.6
  else d.kind.color

def circle (d : Dot) : String :=
  void "circle"
    [("data-id", escape d.id), ("cx", number d.center.x), ("cy", number d.center.y),
      ("r", number d.radius), ("fill", (fill d).hex), ("fill-opacity", number d.emphasis.opacity),
      ("stroke", Color.nodeOutline.hex), ("stroke-width", "1")]

def label (d : Dot) : String :=
  let attrs :=
    [("x", number (d.center.x + d.radius + 4.0)), ("y", number d.center.y),
      ("font-family", "sans-serif"), ("font-size", "11"), ("fill", Color.label.hex),
      ("fill-opacity", number d.emphasis.opacity), ("dominant-baseline", "middle")]
  "<text" ++ String.join (attrs.map fun a => attr a.1 a.2) ++ ">" ++ escape d.label ++ "</text>\n"

def render (s : Scene) : String :=
  let width := toString (max s.width 1)
  let height := toString (max s.height 1)
  "<svg" ++ attr "xmlns" "http://www.w3.org/2000/svg" ++ attr "width" width ++
    attr "height" height ++ attr "viewBox" ("0 0 " ++ width ++ " " ++ height) ++ ">\n" ++
  void "rect" [("width", "100%"), ("height", "100%"), ("fill", Color.background.hex)] ++
  "<g class=\"links\">\n" ++ String.join (s.strokes.map stroke) ++
  "</g>\n<g class=\"nodes\">\n" ++ String.join (s.dots.map fun d => circle d ++ label d) ++
  "</g>\n</svg>\n"

end CodeAtlas.Svg
