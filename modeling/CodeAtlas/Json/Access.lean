import CodeAtlas.Json.Value

/-!
Reading a value whose fields may be left out: a field that is missing, or of another type, counts as
its default.
-/
namespace CodeAtlas.Json

def fieldOr (j : Json) (name : String) (default : Json) : Json := (j.field? name).getD default

def text? (j : Json) (name : String) : Option String := (j.field? name).bind str?

def textAt (j : Json) (name : String) : String := (j.text? name).getD ""

def boolAt (j : Json) (name : String) : Bool := ((j.field? name).bind bool?).getD false

def items : Json → List Json
  | .arr xs => xs
  | _ => []

def listAt (j : Json) (name : String) : List Json := ((j.field? name).map items).getD []

def textsAt (j : Json) (name : String) : List String := (j.listAt name).filterMap str?

def int? : Json → Option Int
  | .num (.int n) => some n
  | _ => none

def nat? (j : Json) (name : String) : Option Nat := ((j.field? name).bind int?).map Int.toNat

def natOr (j : Json) (name : String) (default : Nat) : Nat := (j.nat? name).getD default

end CodeAtlas.Json
