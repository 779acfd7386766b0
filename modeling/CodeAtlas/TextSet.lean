/-!
Sets of texts, as lists in ascending order.
-/
namespace CodeAtlas

abbrev TextSet := List String

namespace TextSet

def insert (s : String) : TextSet → TextSet
  | [] => [s]
  | t :: ts => if s < t then s :: t :: ts else if s = t then t :: ts else t :: insert s ts

end TextSet

end CodeAtlas
