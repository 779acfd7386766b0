import CodeAtlas.Json.Value
import CodeAtlas.Decimal.Shortest
import CodeAtlas.Text.Quoted

/-!
Reading typed data out of JSON values, and the words for a value of the wrong shape. A record may be
an object, or a list of its fields in order. The fields of an object are looked at in the order of
their names; a field that is missing is reported once those that are there have been read.
-/
namespace CodeAtlas.Json

inductive Mismatch where
  | wrongType (found expected : String)
  | missing (field : String)
  | repeated (field : String)
  | tooShort (count : Nat) (record : String) (size : Nat)
  | tooLong (count : Nat)
  | noVariant (name : String)
  deriving DecidableEq, Repr

def Mismatch.message : Mismatch → String
  | .wrongType found expected => s!"invalid type: {found}, expected {expected}"
  | .missing field => s!"missing field `{field}`"
  | .repeated field => s!"duplicate field `{field}`"
  | .tooShort count record size =>
    s!"invalid length {count}, expected struct {record} with {size} " ++
      (if size == 1 then "element" else "elements")
  | .tooLong count => s!"invalid length {count}, expected fewer elements in array"
  | .noVariant name => s!"data did not match any variant of untagged enum {name}"

def describe : Json → String
  | .null => "null"
  | .bool b => s!"boolean `{b}`"
  | .num (.int n) => s!"integer `{n}`"
  | .num (.real x) => "floating point `" ++ Decimal.positional64 x ++ "`"
  | .str s => "string " ++ Text.quoted s
  | .arr _ => "sequence"
  | .obj _ => "map"

def mismatch {α : Type} (j : Json) (expected : String) : Except Mismatch α :=
  .error (.wrongType j.describe expected)

def asText : Json → Except Mismatch String
  | .str s => .ok s
  | j => mismatch j "a string"

def asBool : Json → Except Mismatch Bool
  | .bool b => .ok b
  | j => mismatch j "a boolean"

def asFields : Json → Except Mismatch (Dict Json)
  | .obj fields => .ok fields
  | j => mismatch j "a map"

/-- A list whose items all have one shape; the first item that has not is the fault. -/
def asListOf {α : Type} (item : Json → Except Mismatch α) : Json → Except Mismatch (List α)
  | .arr items => items.mapM item
  | j => mismatch j "a sequence"

def optional {α : Type} (fields : Dict Json) (name : String) (read : Json → Except Mismatch α) :
    Except Mismatch (Option α) :=
  match fields.find? name with
  | none => .ok none
  | some j => (read j).map some

def required {α : Type} (name : String) : Option α → Except Mismatch α
  | some a => .ok a
  | none => .error (.missing name)

def itemAt {α : Type} (items : List Json) (place : Nat) (record : String) (size : Nat)
    (read : Json → Except Mismatch α) : Except Mismatch α :=
  match items[place]? with
  | some j => read j
  | none => .error (.tooShort place record size)

def noMore (items : List Json) (size : Nat) : Except Mismatch Unit :=
  if items.length ≤ size then .ok () else .error (.tooLong items.length)

end CodeAtlas.Json
