/-!
Blank characters, and texts without the blanks at their ends.
-/
namespace CodeAtlas.Text

/-- Blank characters: tab to carriage return, the spaces of every width, and the two separators
of lines and paragraphs. -/
def isBlank (c : Char) : Bool :=
  let n := c.toNat
  (9 ≤ n && n ≤ 13) || n == 32 || n == 133 || n == 160 || n == 0x1680 ||
    (0x2000 ≤ n && n ≤ 0x200a) || n == 0x2028 || n == 0x2029 || n == 0x202f || n == 0x205f ||
    n == 0x3000

def trimStart (cs : List Char) : List Char := cs.dropWhile isBlank

def trimEnd (cs : List Char) : List Char := (cs.reverse.dropWhile isBlank).reverse

def trimmed (cs : List Char) : List Char := trimEnd (trimStart cs)

def trim (s : String) : String := String.ofList (trimmed s.toList)

end CodeAtlas.Text
