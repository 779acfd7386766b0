import CodeAtlas.Decimal.Nearest
import CodeAtlas.Xml.Node

/-!
The size of an SVG document, from the width, the height and the view box of its root.
-/
namespace CodeAtlas.Svg

open Text (numberIn)
open Xml (Attribute skipSpace)

/-! ### Numbers -/

/-- The exponent of a number, and the text after it. A mark before `m` or `x` starts a unit. -/
def exponent? : List Char → Option (Int × List Char)
  | mark :: rest =>
    if mark ≠ 'e' && mark ≠ 'E' then some (0, mark :: rest)
    else match rest with
      | [] => none
      | 'm' :: _ | 'x' :: _ => some (0, mark :: rest)
      | '-' :: ds => (digits? ds).map fun (n, rest) => (-(n : Int), rest)
      | '+' :: ds => (digits? ds).map fun (n, rest) => (n, rest)
      | ds => (digits? ds).map fun (n, rest) => (n, rest)
  | [] => some (0, [])
where
  digits? (cs : List Char) : Option (Nat × List Char) :=
    let ds := cs.takeWhile Char.isDigit
    if ds.isEmpty then none else some (numberIn 10 ds, cs.dropWhile Char.isDigit)

def number? (cs : List Char) : Option (Float × List Char) := do
  let (negative, cs) := match skipSpace cs with
    | '-' :: rest => (true, rest)
    | '+' :: rest => (false, rest)
    | rest => (false, rest)
  let whole := cs.takeWhile Char.isDigit
  let (fraction, rest) := match cs.dropWhile Char.isDigit with
    | '.' :: rest => (rest.takeWhile Char.isDigit, rest.dropWhile Char.isDigit)
    | rest => ([], rest)
  let ds := whole ++ fraction
  if ds.isEmpty then none
  let (e, rest) ← exponent? rest
  let x ← Decimal.nearest? (numberIn 10 ds) (e - fraction.length)
  return (if negative then -x else x, rest)

/-! ### Lengths -/

inductive LengthUnit where
  | pixel
  | percent
  | em
  | ex
  | inch
  | centimeter
  | millimeter
  | point
  | pica
  deriving DecidableEq, Repr

def LengthUnit.byText : List (String × LengthUnit) :=
  [("", .pixel), ("px", .pixel), ("%", .percent), ("em", .em), ("ex", .ex), ("in", .inch),
    ("cm", .centimeter), ("mm", .millimeter), ("pt", .point), ("pc", .pica)]

structure Length where
  number : Float
  unit : LengthUnit

/-- A length. Blanks may stand before it and not behind. -/
def Length.ofText? (s : String) : Option Length := do
  let (number, rest) ← number? s.toList
  let unit ← LengthUnit.byText.lookup (String.ofList rest)
  return ⟨number, unit⟩

def resolution : Float32 := 96.0

/-- A length in pixels, where a size of text is given, and the size that all of it would be. -/
def Length.pixels (l : Length) (textSize whole : Float32) : Float32 :=
  let n := l.number.toFloat32
  match l.unit with
  | .pixel => n
  | .percent => whole * n / 100.0
  | .em => n * textSize
  | .ex => n * textSize / 2.0
  | .inch => n * resolution
  | .centimeter => n * resolution / 2.54
  | .millimeter => n * resolution / 25.4
  | .point => n * resolution / 72.0
  | .pica => n * resolution / 6.0

/-! ### The size -/

def attributeSpaces : List String :=
  ["http://www.w3.org/2000/svg", "http://www.w3.org/1999/xlink", Xml.xmlSpace]

def find? (attrs : List Attribute) (name : String) : Option String :=
  (attrs.find? fun a => a.name = name && a.space.all attributeSpaces.contains).map (·.value)

def isFinite (x : Float32) : Bool := !(x.isNaN || x.isInf)

def boxSize? (left top width height : Float32) : Option (Float32 × Float32) :=
  let right := width + left
  let bottom := height + top
  if isFinite left && isFinite top && isFinite right && isFinite bottom && left < right &&
      top < bottom && isFinite (right - left) && isFinite (bottom - top) then
    some (right - left, bottom - top)
  else none

def numbersFrom : Nat → List Char → Option (List Float)
  | 0, _ => some []
  | count + 1, cs => do
    let (x, rest) ← number? cs
    let rest := match skipSpace rest with
      | ',' :: rest => rest
      | rest => rest
    return x :: (← numbersFrom count rest)

def viewBox? (attrs : List Attribute) : Option (Float32 × Float32) := do
  match ← numbersFrom 4 (← find? attrs "viewBox").toList with
  | [x, y, width, height] =>
    if width ≤ 0.0 || height ≤ 0.0 then none
    else boxSize? x.toFloat32 y.toFloat32 width.toFloat32 height.toFloat32
  | _ => none

def standardTextSize : Float32 := 12.0

def textSize (attrs : List Attribute) : Float32 :=
  match (find? attrs "font-size").bind Length.ofText? with
  | some l => l.pixels standardTextSize standardTextSize
  | none => standardTextSize

/-- A side of a document. If nothing is said, it is all of the view box. -/
def side (attrs : List Attribute) (name : String) (whole : Float32) : Float32 :=
  (((find? attrs name).bind Length.ofText?).getD ⟨100.0, .percent⟩).pixels (textSize attrs) whole

def size? (attrs : List Attribute) : Option (Float32 × Float32) :=
  let (boxWidth, boxHeight) := (viewBox? attrs).getD (100.0, 100.0)
  let width := side attrs "width" boxWidth
  let height := side attrs "height" boxHeight
  if isFinite width && isFinite height && 0.0 < width && 0.0 < height then some (width, height)
  else none

end CodeAtlas.Svg
