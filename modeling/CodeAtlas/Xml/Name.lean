import CodeAtlas.Text.CodeTable

/-!
The characters and names of XML. A name may have a label before a colon, which stands for a
namespace.
-/
namespace CodeAtlas.Xml

open Text (CodeRange inRanges)

def isSpace (c : Char) : Bool := c == ' ' || c == '\t' || c == '\n' || c == '\r'

def isChar (c : Char) : Bool :=
  isSpace c || (0x20 ≤ c.toNat && c.toNat != 0xFFFE && c.toNat != 0xFFFF)

def letterRanges : List CodeRange :=
  [⟨0xC0, 0xD6⟩, ⟨0xD8, 0xF6⟩, ⟨0xF8, 0x2FF⟩, ⟨0x370, 0x37D⟩, ⟨0x37F, 0x1FFF⟩, ⟨0x200C, 0x200D⟩,
    ⟨0x2070, 0x218F⟩, ⟨0x2C00, 0x2FEF⟩, ⟨0x3001, 0xD7FF⟩, ⟨0xF900, 0xFDCF⟩, ⟨0xFDF0, 0xFFFD⟩,
    ⟨0x10000, 0xEFFFF⟩]

def innerRanges : List CodeRange := [⟨0xB7, 0xB7⟩, ⟨0x300, 0x36F⟩, ⟨0x203F, 0x2040⟩]

def isNameStart (c : Char) : Bool := c.isAlpha || c == '_' || c == ':' || inRanges letterRanges c

def isNameChar (c : Char) : Bool :=
  isNameStart c || c.isDigit || c == '-' || c == '.' || inRanges innerRanges c

def skipSpace (cs : List Char) : List Char := cs.dropWhile isSpace

def space? : List Char → Option (List Char)
  | c :: cs => if isSpace c then some (skipSpace cs) else none
  | [] => none

def word? : List Char → Option (String × List Char)
  | c :: cs =>
    if isNameStart c then
      some (String.ofList (c :: cs.takeWhile isNameChar), cs.dropWhile isNameChar)
    else none
  | [] => none

structure Name where
  label : String
  base : String
  deriving DecidableEq, Repr

def startsName (cs : List Char) : Bool := cs.head?.any isNameStart

/-- A name with at most one colon. Before a colon may be nothing, after it may not. -/
def name? (cs : List Char) : Option (Name × List Char) :=
  let word := cs.takeWhile isNameChar
  let rest := cs.dropWhile isNameChar
  match Text.parts (· = ':') word with
  | [base] => if startsName base then some (⟨"", String.ofList base⟩, rest) else none
  | [label, base] =>
    if (label.isEmpty || startsName label) && startsName base then
      some (⟨String.ofList label, String.ofList base⟩, rest)
    else none
  | _ => none

end CodeAtlas.Xml
