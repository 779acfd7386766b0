import CodeAtlas.Text.Utf8

/-!
The bytes by which values enter a hash. Numbers have a fixed width and texts an end mark that no
text contains, so that the values can be told apart again.
-/
namespace CodeAtlas.Hash

def feedNat (n : Nat) : List UInt8 :=
  (List.range 8).map fun i => UInt8.ofNat (n / Nat.pow 256 i % 256)

/-- The bytes of the text, then a byte that UTF-8 does not use. -/
def feedText (s : String) : List UInt8 := Text.utf8 s ++ [0xff]

end CodeAtlas.Hash
