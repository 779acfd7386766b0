import CodeAtlas.Graph.Kind
import CodeAtlas.Text.Utf8

/-!
Colours with an opacity, and the colours of the viewer. The three channels of a colour are kept
multiplied by its opacity.
-/
namespace CodeAtlas

structure Color where
  r : UInt8
  g : UInt8
  b : UInt8
  a : UInt8
  deriving DecidableEq, Repr

namespace Color

def solid (r g b : UInt8) : Color := ⟨r, g, b, 255⟩

def gray (v : UInt8) : Color := ⟨v, v, v, 255⟩

def ofStraight (r g b a : UInt8) : Color :=
  if a == 0 then ⟨0, 0, 0, 0⟩
  else if a == 255 then ⟨r, g, b, a⟩
  else
    let share := Float32.ofNat a.toNat / 255.0
    let channel (c : UInt8) : UInt8 := (Float32.ofNat c.toNat * share + 0.5).toUInt8
    ⟨channel r, channel g, channel b, a⟩

/-- The channels before they were multiplied by the opacity, as nearly as eight bits tell. -/
def straight (c : Color) : Color :=
  if c.a == 0 || c.a == 255 then c
  else
    let factor := 255.0 / Float32.ofNat c.a.toNat
    let channel (v : UInt8) : UInt8 := (factor * Float32.ofNat v.toNat + 0.5).toUInt8
    ⟨channel c.r, channel c.g, channel c.b, c.a⟩

/-- A mix of two colours: `amount` from 0, the base, to 1, the overlay. -/
def blend (base overlay : Color) (amount : Float32) : Color :=
  let amount := Scalar.clamp 0.0 1.0 amount
  let keep := 1.0 - amount
  let mix (x y : UInt8) : UInt8 :=
    (Float32.ofNat x.toNat * keep + Float32.ofNat y.toNat * amount).toUInt8
  ofStraight (mix base.r overlay.r) (mix base.g overlay.g) (mix base.b overlay.b)
    (mix base.a overlay.a)

def withOpacity (c : Color) (opacity : Float32) : Color :=
  let s := c.straight
  ofStraight s.r s.g s.b (Float32.ofNat s.a.toNat * Scalar.clamp 0.0 1.0 opacity).toUInt8

def hex (c : Color) : String :=
  let s := c.straight
  "#" ++ Text.hexBytes [s.r, s.g, s.b]

/-! ### The palette -/

def background : Color := solid 19 23 29

def nodeOutline : Color := ⟨15, 15, 15, 190⟩

def label : Color := gray 238

def selected : Color := solid 245 206 93

def hovered : Color := solid 255 164 101

def path : Color := solid 246 206 104

def caption : Color := gray 240

def gridLine : Color := ⟨24, 28, 33, 70⟩

def transparent : Color := ⟨0, 0, 0, 0⟩

end Color

def NodeKind.color : NodeKind → Color
  | .file => .solid 86 156 214
  | .classDef => .solid 78 201 176
  | .method => .solid 197 134 192
  | .function => .solid 220 220 170
  | .lintError => .solid 244 71 71
  | .other _ => .solid 150 150 150

def LinkKind.color : LinkKind → Color
  | .contains => .solid 110 120 134
  | .hasMethod => .solid 124 110 150
  | .calls => .solid 241 146 94
  | .hasError => .solid 214 84 84
  | .other _ => .solid 96 96 96

end CodeAtlas
