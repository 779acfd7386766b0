import CodeAtlas.Dict

/-!
JSON values. The fields of an object are kept in ascending order of their names.
-/
namespace CodeAtlas

/-- A number of a JSON document: an integer while it fits 64 bits, else a binary64. -/
inductive Number where
  | int (n : Int)
  | real (x : Float)
  deriving DecidableEq, Repr

/-- Whether two numbers are equal. An integer is no binary64, and the two zeros of binary64 are one
number. -/
def Number.same : Number → Number → Bool
  | .int m, .int n => m == n
  | .real x, .real y => x == y
  | _, _ => false

inductive Json where
  | null
  | bool (b : Bool)
  | num (n : Number)
  | str (s : String)
  | arr (items : List Json)
  | obj (fields : List (String × Json))
  deriving Inhabited

namespace Json

def object (fields : List (String × Json)) : Json := .obj (Dict.ofList fields)

def ofInt (n : Int) : Json := .num (.int n)

def ofNat (n : Nat) : Json := .num (.int n)

def field? (name : String) : Json → Option Json
  | .obj fields => Dict.find? name fields
  | _ => none

def str? : Json → Option String
  | .str s => some s
  | _ => none

def bool? : Json → Option Bool
  | .bool b => some b
  | _ => none

mutual

def same : Json → Json → Bool
  | .null, .null => true
  | .bool a, .bool b => a == b
  | .num a, .num b => a.same b
  | .str a, .str b => a == b
  | .arr a, .arr b => sameItems a b
  | .obj a, .obj b => sameFields a b
  | _, _ => false

def sameItems : List Json → List Json → Bool
  | [], [] => true
  | a :: as, b :: bs => same a b && sameItems as bs
  | _, _ => false

def sameFields : List (String × Json) → List (String × Json) → Bool
  | [], [] => true
  | (k, a) :: as, (l, b) :: bs => k == l && same a b && sameFields as bs
  | _, _ => false

end

instance : BEq Json := ⟨same⟩

end Json

end CodeAtlas
