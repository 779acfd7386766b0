import CodeAtlas.Json.Value
import CodeAtlas.Decimal.Shortest
import CodeAtlas.Text.Utf8

/-!
Writing JSON values: on one line without blanks, or spread over lines with an indent of two.
-/
namespace CodeAtlas

def Number.text : Number → String
  | .int n => toString n
  | .real x => Decimal.compact64 x

namespace Json

def escapedChar (c : Char) : List Char :=
  match c with
  | '"' => ['\\', '"']
  | '\\' => ['\\', '\\']
  | '\n' => ['\\', 'n']
  | '\r' => ['\\', 'r']
  | '\t' => ['\\', 't']
  | c =>
    if c.toNat == 8 then ['\\', 'b']
    else if c.toNat == 12 then ['\\', 'f']
    else if c.toNat < 32 then
      ['\\', 'u', '0', '0', Text.hexDigit (c.toNat / 16), Text.hexDigit (c.toNat % 16)]
    else [c]

def textLiteral (s : String) : String :=
  String.ofList ('"' :: s.toList.flatMap escapedChar ++ ['"'])

mutual

def compact : Json → String
  | .null => "null"
  | .bool b => if b then "true" else "false"
  | .num n => n.text
  | .str s => textLiteral s
  | .arr items => "[" ++ compactItems items ++ "]"
  | .obj fields => "\x7b" ++ compactFields fields ++ "\x7d"

def compactItems : List Json → String
  | [] => ""
  | [item] => compact item
  | item :: items => compact item ++ "," ++ compactItems items

def compactFields : List (String × Json) → String
  | [] => ""
  | [(name, value)] => textLiteral name ++ ":" ++ compact value
  | (name, value) :: fields =>
    textLiteral name ++ ":" ++ compact value ++ "," ++ compactFields fields

end

def indent (depth : Nat) : String := String.ofList ('\n' :: List.replicate (2 * depth) ' ')

mutual

def prettyAt (depth : Nat) : Json → String
  | .arr [] => "[]"
  | .arr (item :: items) => "[" ++ prettyItems depth (item :: items) ++ indent depth ++ "]"
  | .obj [] => "\x7b\x7d"
  | .obj (field :: fields) =>
    "\x7b" ++ prettyFields depth (field :: fields) ++ indent depth ++ "\x7d"
  | .null => "null"
  | .bool b => if b then "true" else "false"
  | .num n => n.text
  | .str s => textLiteral s

def prettyItems (depth : Nat) : List Json → String
  | [] => ""
  | [item] => indent (depth + 1) ++ prettyAt (depth + 1) item
  | item :: items =>
    indent (depth + 1) ++ prettyAt (depth + 1) item ++ "," ++ prettyItems depth items

def prettyFields (depth : Nat) : List (String × Json) → String
  | [] => ""
  | [(name, value)] =>
    indent (depth + 1) ++ textLiteral name ++ ": " ++ prettyAt (depth + 1) value
  | (name, value) :: fields =>
    indent (depth + 1) ++ textLiteral name ++ ": " ++ prettyAt (depth + 1) value ++ "," ++
      prettyFields depth fields

end

def pretty (j : Json) : String := prettyAt 0 j

end Json

end CodeAtlas
