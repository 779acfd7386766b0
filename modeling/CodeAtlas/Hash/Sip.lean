/-!
SipHash-1-3 with a zero key: one round a word, three at the end.
-/
namespace CodeAtlas.Hash

structure SipState where
  v0 : UInt64
  v1 : UInt64
  v2 : UInt64
  v3 : UInt64
  deriving DecidableEq, Repr

def rotateLeft (x : UInt64) (n : UInt64) : UInt64 := (x <<< n) ||| (x >>> (64 - n))

namespace SipState

def start : SipState :=
  ⟨0x736f6d6570736575, 0x646f72616e646f6d, 0x6c7967656e657261, 0x7465646279746573⟩

def round (s : SipState) : SipState :=
  let v0 := s.v0 + s.v1
  let v1 := rotateLeft s.v1 13 ^^^ v0
  let v0 := rotateLeft v0 32
  let v2 := s.v2 + s.v3
  let v3 := rotateLeft s.v3 16 ^^^ v2
  let v0 := v0 + v3
  let v3 := rotateLeft v3 21 ^^^ v0
  let v2 := v2 + v1
  let v1 := rotateLeft v1 17 ^^^ v2
  let v2 := rotateLeft v2 32
  ⟨v0, v1, v2, v3⟩

def absorb (s : SipState) (word : UInt64) : SipState :=
  let s := round { s with v3 := s.v3 ^^^ word }
  { s with v0 := s.v0 ^^^ word }

def finish (s : SipState) : UInt64 :=
  let s := round (round (round { s with v2 := s.v2 ^^^ 0xff }))
  s.v0 ^^^ s.v1 ^^^ s.v2 ^^^ s.v3

end SipState

def wordOf : List UInt8 → UInt64
  | [] => 0
  | b :: bs => b.toUInt64 ||| (wordOf bs <<< 8)

/-- Eight bytes at a time; fewer at the end make the last word, under the length modulo 256. -/
def sipFrom (length : Nat) (s : SipState) : List UInt8 → UInt64
  | b0 :: b1 :: b2 :: b3 :: b4 :: b5 :: b6 :: b7 :: rest =>
    sipFrom length (s.absorb (wordOf [b0, b1, b2, b3, b4, b5, b6, b7])) rest
  | tail =>
    (s.absorb (wordOf tail ||| (UInt64.ofNat (length % 256) <<< 56))).finish

def sip (bytes : List UInt8) : UInt64 := sipFrom bytes.length .start bytes

end CodeAtlas.Hash
