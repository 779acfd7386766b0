/-!
Bytes read as UTF-8: strictly, saying where and how a text goes wrong, or leniently, with a
replacement character for each faulty stretch.
-/
namespace CodeAtlas.Text

abbrev Bytes := List UInt8

def utf8 (s : String) : Bytes := s.toUTF8.toList

def trailRanges (lead : UInt8) : Option (List (UInt8 × UInt8)) :=
  if lead < 0x80 then some []
  else if 0xc2 ≤ lead && lead ≤ 0xdf then some [(0x80, 0xbf)]
  else if lead == 0xe0 then some [(0xa0, 0xbf), (0x80, 0xbf)]
  else if lead == 0xed then some [(0x80, 0x9f), (0x80, 0xbf)]
  else if 0xe1 ≤ lead && lead ≤ 0xef then some [(0x80, 0xbf), (0x80, 0xbf)]
  else if lead == 0xf0 then some [(0x90, 0xbf), (0x80, 0xbf), (0x80, 0xbf)]
  else if 0xf1 ≤ lead && lead ≤ 0xf3 then some [(0x80, 0xbf), (0x80, 0xbf), (0x80, 0xbf)]
  else if lead == 0xf4 then some [(0x80, 0x8f), (0x80, 0xbf), (0x80, 0xbf)]
  else none

/-- How far the bytes fit their ranges: all of them, a number of them before one that does not
fit, or a number of them before the end. -/
inductive Fit where
  | whole
  | broken (count : Nat)
  | cut (count : Nat)
  deriving DecidableEq, Repr

def fit : List (UInt8 × UInt8) → Bytes → Fit
  | [], _ => .whole
  | _ :: _, [] => .cut 0
  | (lo, hi) :: ranges, b :: bytes =>
    if lo ≤ b && b ≤ hi then
      match fit ranges bytes with
      | .whole => .whole
      | .broken n => .broken (n + 1)
      | .cut n => .cut (n + 1)
    else .broken 0

def codePoint (lead : UInt8) (trail : Bytes) : Nat :=
  let head :=
    match trail.length with
    | 0 => lead.toNat
    | 1 => lead.toNat % 0x20
    | 2 => lead.toNat % 0x10
    | _ => lead.toNat % 0x08
  trail.foldl (fun n b => n * 64 + b.toNat % 64) head

inductive Piece where
  | char (c : Char) (size : Nat)
  | fault (size : Nat) (ended : Bool)
  deriving DecidableEq, Repr

def Piece.size : Piece → Nat
  | .char _ n => n
  | .fault n _ => n

def piece (lead : UInt8) (rest : Bytes) : Piece :=
  match trailRanges lead with
  | none => .fault 1 false
  | some ranges =>
    match fit ranges rest with
    | .whole => .char (Char.ofNat (codePoint lead (rest.take ranges.length))) (ranges.length + 1)
    | .broken n => .fault (n + 1) false
    | .cut n => .fault (n + 1) true

/-- The pieces of the bytes, in order. A piece is never empty, so that many steps suffice. -/
def pieces : Nat → Bytes → List Piece
  | 0, _ => []
  | _, [] => []
  | n + 1, b :: bytes =>
    let p := piece b bytes
    p :: pieces n (bytes.drop (p.size - 1))

/-- Where bytes stop being UTF-8: after how many good bytes, and how many bytes are faulty, none
if they are a character cut off by the end. -/
structure Utf8Fault where
  start : Nat
  size : Option Nat
  deriving DecidableEq, Repr

def Utf8Fault.message (f : Utf8Fault) : String :=
  match f.size with
  | some n => s!"invalid utf-8 sequence of {n} bytes from index {f.start}"
  | none => s!"incomplete utf-8 byte sequence from index {f.start}"

def readPieces (start : Nat) : List Piece → Except Utf8Fault (List Char)
  | [] => .ok []
  | .char c n :: ps => (readPieces (start + n) ps).map (c :: ·)
  | .fault n ended :: _ => .error ⟨start, if ended then none else some n⟩

def decodeUtf8 (bytes : Bytes) : Except Utf8Fault String :=
  (readPieces 0 (pieces bytes.length bytes)).map String.ofList

/-- The text of the bytes, with a replacement character for each faulty stretch. -/
def decodeLossy (bytes : Bytes) : String :=
  String.ofList ((pieces bytes.length bytes).map fun
    | .char c _ => c
    | .fault _ _ => Char.ofNat 0xfffd)

def hexDigit (n : Nat) : Char := if n < 10 then Char.ofNat (48 + n) else Char.ofNat (87 + n)

def hexByte (b : UInt8) : List Char := [hexDigit (b.toNat / 16), hexDigit (b.toNat % 16)]

def hexBytes (bytes : Bytes) : String := String.ofList (bytes.flatMap hexByte)

def hexWord (width n : Nat) : String :=
  String.ofList ((List.range width).reverse.map fun i => hexDigit (n / Nat.pow 16 i % 16))

def hexValue? (c : Char) : Option Nat :=
  if '0' ≤ c && c ≤ '9' then some (c.toNat - 48)
  else if 'a' ≤ c && c ≤ 'f' then some (c.toNat - 87)
  else if 'A' ≤ c && c ≤ 'F' then some (c.toNat - 55)
  else none

def bytesOfHexChars : List Char → Option Bytes
  | [] => some []
  | a :: b :: rest => do
    let x ← hexValue? a
    let y ← hexValue? b
    let bytes ← bytesOfHexChars rest
    return UInt8.ofNat (x * 16 + y) :: bytes
  | [_] => none

def bytesOfHex? (s : String) : Option Bytes := bytesOfHexChars s.toList

end CodeAtlas.Text
