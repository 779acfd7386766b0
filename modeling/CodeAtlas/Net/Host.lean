import CodeAtlas.Domain.Name

/-!
Hosts of web addresses: names, and addresses of four bytes or of eight groups, each written in one
way.
-/
namespace CodeAtlas.Net

def unescapeFrom : Nat → List Char → Text.Bytes
  | _, [] => []
  | 0, _ => []
  | fuel + 1, c :: cs =>
    match c, cs with
    | '%', a :: b :: rest =>
      match Text.hexValue? a, Text.hexValue? b with
      | some x, some y => UInt8.ofNat (x * 16 + y) :: unescapeFrom fuel rest
      | _, _ => Text.utf8 "%" ++ unescapeFrom fuel cs
    | c, cs => Text.utf8 (String.ofList [c]) ++ unescapeFrom fuel cs

def unescape (cs : List Char) : Text.Bytes := unescapeFrom cs.length cs

/-! ### Four bytes -/

def digitsIn? (base : Nat) (ds : List Char) : Option Nat :=
  ds.foldlM (fun n c =>
    match Text.hexValue? c with
    | some v => if v < base then some (n * base + v) else none
    | none => none) 0

/-- A number in base sixteen behind `0x`, eight behind `0`, else ten. -/
def partNumber? : List Char → Option Nat
  | [] => none
  | '0' :: 'x' :: ds | '0' :: 'X' :: ds => digitsIn? 16 ds
  | '0' :: d :: ds => digitsIn? 8 (d :: ds)
  | ds => digitsIn? 10 ds

def dottedParts (cs : List Char) : List (List Char) :=
  let parts := Text.parts (· = '.') cs
  match parts.reverse with
  | [] :: (p :: ps) => (p :: ps).reverse
  | _ => parts

def endsInNumber (cs : List Char) : Bool :=
  match (dottedParts cs).getLast? with
  | some [] | none => false
  | some part => part.all Char.isDigit || (partNumber? part).isSome

/-- The number of an address of up to four parts; the last part fills what is left. -/
def fourBytes? (cs : List Char) : Option Nat := do
  let numbers ← (dottedParts cs).mapM partNumber?
  let count := numbers.length
  let last ← numbers.getLast?
  let front := numbers.dropLast
  if 1 ≤ count && count ≤ 4 && front.all (· ≤ 255) && last < Nat.pow 256 (5 - count) then
    some (front.zipIdx.foldl (fun n (p, i) => n + p * Nat.pow 256 (3 - i)) last)
  else none

def fourBytesText (n : Nat) : String :=
  ".".intercalate ([3, 2, 1, 0].map fun i => toString (n / Nat.pow 256 i % 256))

/-! ### Eight groups -/

def group? (ds : List Char) : Option Nat :=
  if ds.isEmpty || ds.length > 4 then none else digitsIn? 16 ds

def groups? (cs : List Char) : Option (List Nat) :=
  if cs.isEmpty then some [] else (Text.parts (· = ':') cs).mapM group?

/-- An address of four bytes as two groups. Its numbers have no leading zeros. -/
def fourBytesGroups? (cs : List Char) : Option (List Nat) := do
  let bytes ← (Text.parts (· = '.') cs).mapM fun p =>
    if p.isEmpty || p.length > 3 || (p.length > 1 && p.head? == some '0') then none
    else (digitsIn? 10 p).filter (· ≤ 255)
  match bytes with
  | [a, b, c, d] => some [a * 256 + b, c * 256 + d]
  | _ => none

def lastGroups? (cs : List Char) : Option (List Nat) := do
  let last := (cs.reverse.takeWhile (· ≠ ':')).reverse
  if last.contains '.' then
    let front := (cs.take (cs.length - last.length)).dropLast
    if front.isEmpty && cs.length > last.length then none
    else return (← groups? front) ++ (← fourBytesGroups? last)
  else groups? cs

def splitDouble : List Char → List Char → Option (List Char × List Char)
  | _, [] => none
  | seen, ':' :: ':' :: rest => some (seen.reverse, rest)
  | seen, c :: rest => splitDouble (c :: seen) rest

/-- Eight groups; `::` stands for as many zeros as are missing. -/
def eightGroups? (cs : List Char) : Option (List Nat) :=
  match splitDouble [] cs with
  | none => (lastGroups? cs).filter (·.length = 8)
  | some (front, back) => do
    let front ← groups? front
    let back ← lastGroups? back
    let count := front.length + back.length
    if count ≤ 7 then some (front ++ List.replicate (8 - count) 0 ++ back) else none

def zeroRun (gs : List Nat) : Nat := (gs.takeWhile (· = 0)).length

def hexText (n : Nat) : String := String.ofList (Nat.toDigits 16 n)

/-- The first longest run of at least two zeros is written as `::`. -/
def eightGroupsText (gs : List Nat) : String :=
  let runs := (List.range gs.length).map fun i => zeroRun (gs.drop i)
  let longest := runs.foldl max 0
  let body (part : List Nat) := ":".intercalate (part.map hexText)
  if longest < 2 then body gs
  else
    let start := runs.findIdx (· = longest)
    body (gs.take start) ++ "::" ++ body (gs.drop (start + longest))

def bracketed? (cs : List Char) : Option String :=
  if cs.getLast? = some ']' then
    (eightGroups? cs.dropLast).map fun gs => "[" ++ eightGroupsText gs ++ "]"
  else none

/-- The host that a text stands for, in its one spelling. -/
def host? (cs : List Char) : Option String :=
  match cs with
  | '[' :: rest => bracketed? rest
  | cs => do
    let name ← Domain.toAscii? (Text.decodeLossy (unescape cs)).toList
    if name.isEmpty then none
    else if endsInNumber name then (fourBytes? name).map fourBytesText
    else some (String.ofList name)

end CodeAtlas.Net
