import CodeAtlas.Text.Parts

/-!
Short texts for nodes: a label cut to a number of characters, and the last part of a path.
-/
namespace CodeAtlas.Text

/-- At most `limit` characters; a longer text gives up its end for an ellipsis. -/
def shorten (limit : Nat) (s : String) : String :=
  if s.length ≤ limit then s else String.ofList (s.toList.take (limit - 1) ++ ['…'])

def isPathBreak (c : Char) : Bool := c == '/' || c == '\\'

def lastPart (path : String) : String :=
  match (parts isPathBreak path.toList).reverse.find? (!·.isEmpty) with
  | some part => String.ofList part
  | none => path

end CodeAtlas.Text
