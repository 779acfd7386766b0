/-!
The parts of a text between separators.
-/
namespace CodeAtlas.Text

/-- The parts between separators, empty ones included; a text without a separator is one part. -/
def parts (isSeparator : Char → Bool) : List Char → List (List Char)
  | [] => [[]]
  | c :: cs =>
    if isSeparator c then [] :: parts isSeparator cs
    else match parts isSeparator cs with
      | [] => [[c]]
      | p :: ps => (c :: p) :: ps

end CodeAtlas.Text
