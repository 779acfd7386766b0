import CodeAtlas.Xml.Token

/-!
References: text such as `&amp;` or `&#38;` that stands for a character, and text such as `&name;`
that stands for the text of an entity. The text of an entity may refer to entities again, to a
limited depth and a limited number of times.
-/
namespace CodeAtlas.Xml

abbrev Entities := List (String × List Char)

inductive Piece where
  | char (c : Char)
  /-- A character that is written as a reference. -/
  | escaped (c : Char)
  | entity (name : String)
  deriving DecidableEq, Repr

/-- The character with a number. A number of no character stands for the replacement character. -/
def coded? (base : Nat) (isDigit : Char → Bool) (cs : List Char) : Option (Piece × List Char) := do
  let ds := cs.takeWhile isDigit
  let n := Text.numberIn base ds
  let c := if n.isValidChar then Char.ofNat n else '\uFFFD'
  if ds.isEmpty || n ≥ Nat.pow 2 32 || !isChar c then none
  else return (.escaped c, cs.dropWhile isDigit)

def named (name : String) : Piece :=
  match name with
  | "amp" => .escaped '&'
  | "lt" => .escaped '<'
  | "gt" => .escaped '>'
  | "quot" => .escaped '"'
  | "apos" => .escaped '\x27'
  | name => .entity name

def reference? (cs : List Char) : Option (Piece × List Char) := do
  let (piece, rest) ← match cs with
    | '#' :: 'x' :: rest => coded? 16 (fun c => (Text.hexValue? c).isSome) rest
    | '#' :: rest => coded? 10 Char.isDigit rest
    | cs => (word? cs).map fun (name, rest) => (named name, rest)
  return (piece, ← after? ";" rest)

def piecesFrom : Nat → List Char → Option (List Piece)
  | _, [] => some []
  | 0, _ => none
  | fuel + 1, '&' :: cs => do
    let (piece, rest) ← reference? cs
    return piece :: (← piecesFrom fuel rest)
  | fuel + 1, c :: cs => (piecesFrom fuel cs).map (.char c :: ·)

def unifyBreaks : List Char → List Char
  | [] => []
  | '\r' :: '\n' :: cs => '\n' :: unifyBreaks cs
  | c :: cs => (if c = '\r' then '\n' else c) :: unifyBreaks cs

def pieces? (cs : List Char) : Option (List Piece) := piecesFrom cs.length (unifyBreaks cs)

inductive Stretch where
  | text (cs : List Char)
  | entity (name : String)
  deriving DecidableEq, Repr

def Stretch.join (c : Char) : List Stretch → List Stretch
  | .text cs :: rest => .text (c :: cs) :: rest
  | rest => .text [c] :: rest

def stretches : List Piece → List Stretch
  | [] => []
  | .entity name :: ps => .entity name :: stretches ps
  | .char c :: ps | .escaped c :: ps => Stretch.join c (stretches ps)

/-! ### Limits -/

def maxDepth : Nat := 10

def maxReferences : Nat := 255

def countReference (room count : Nat) : Option Nat :=
  if room = maxDepth then some count
  else if count = maxReferences then none
  else some (count + 1)

/-- The number after a reference is resolved. Outside of all entities it starts anew. -/
def afterReference (room count : Nat) : Nat := if room = maxDepth then 0 else count

/-! ### Values of attributes -/

/-- The value of an attribute and the number of references. Blanks become spaces, unless they are
written as references outside of all entities. Inside of one, `<` cannot even be a reference. -/
def valueFrom (es : Entities) : Nat → Nat → List Char → Option (List Char × Nat)
  | room, count, cs => do
    let (backwards, count) ← (← pieces? cs).foldlM
      (fun (done, count) piece =>
        match piece with
        | .char c => some ((if isSpace c then ' ' else c) :: done, count)
        | .escaped c =>
          if room = maxDepth then some (c :: done, count)
          else if c = '<' then none
          else some ((if isSpace c then ' ' else c) :: done, count)
        | .entity name => do
          let text ← es.lookup name
          let count ← countReference room count
          match room with
          | 0 => none
          | inner + 1 =>
            let (value, count) ← valueFrom es inner count text
            return (value.reverse ++ done, afterReference room count))
      ([], count)
    return (backwards.reverse, count)

end CodeAtlas.Xml
