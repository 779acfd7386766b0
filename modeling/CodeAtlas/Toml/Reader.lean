import CodeAtlas.Toml.Scalar

/-!
Reading TOML text, by the rules of version 1.1. A reader gives what it read and the text after it,
or nothing if the text is malformed.
-/
namespace CodeAtlas.Toml

open Json (hexValue?)

def isPlain (c : Char) : Bool := (0x20 ≤ c.toNat && c.toNat != 0x7F) || c == '\t'

def isBlank (c : Char) : Bool := c == ' ' || c == '\t'

def skipBlank (cs : List Char) : List Char := cs.dropWhile isBlank

def newline? : List Char → Option (List Char)
  | '\n' :: rest => some rest
  | '\r' :: '\n' :: rest => some rest
  | _ => none

def endLine (cs : List Char) : Option (List Char) :=
  let rest := match skipBlank cs with
    | '#' :: rest => rest.dropWhile isPlain
    | rest => rest
  if rest.isEmpty then some [] else newline? rest

def skipFillerFrom : Nat → List Char → List Char
  | 0, cs => cs
  | fuel + 1, cs =>
    match cs with
    | ' ' :: rest | '\t' :: rest | '\n' :: rest => skipFillerFrom fuel rest
    | '\r' :: '\n' :: rest => skipFillerFrom fuel rest
    | '#' :: rest => skipFillerFrom fuel (rest.dropWhile isPlain)
    | cs => cs

def skipFiller (cs : List Char) : List Char := skipFillerFrom cs.length cs

/-! ### Texts -/

def codePoint (width : Nat) (cs : List Char) : Option (Char × List Char) :=
  let ds := cs.take width
  if ds.length = width && ds.all (fun c => (hexValue? c).isSome) then
    let n := valueIn 16 ds
    if n.isValidChar then some (Char.ofNat n, cs.drop width) else none
  else none

def escape : List Char → Option (Char × List Char)
  | 'b' :: rest => some ('\x08', rest)
  | 't' :: rest => some ('\t', rest)
  | 'n' :: rest => some ('\n', rest)
  | 'f' :: rest => some ('\x0c', rest)
  | 'r' :: rest => some ('\r', rest)
  | 'e' :: rest => some ('\x1b', rest)
  | '"' :: rest => some ('"', rest)
  | '\\' :: rest => some ('\\', rest)
  | 'x' :: rest => codePoint 2 rest
  | 'u' :: rest => codePoint 4 rest
  | 'U' :: rest => codePoint 8 rest
  | _ => none

def skipBreak (cs : List Char) : Option (List Char) :=
  (newline? (skipBlank cs)).map fun rest =>
    rest.dropWhile fun c => isBlank c || c == '\n' || c == '\r'

/-- A text of several lines ends with three quotes; up to two more belong to it. -/
def closing (quote : Char) (cs : List Char) : Option (List Char × List Char) :=
  let count := min (cs.takeWhile (· = quote)).length 5
  if count < 3 then none else some (List.replicate (count - 3) quote, cs.drop count)

def basicFrom (long : Bool) : Nat → List Char → Option (List Char × List Char)
  | 0, _ => none
  | fuel + 1, cs =>
    match cs with
    | [] => none
    | '\\' :: rest =>
      match if long then skipBreak rest else none with
      | some rest => basicFrom long fuel rest
      | none => do
        let (c, rest) ← escape rest
        let (body, rest) ← basicFrom long fuel rest
        return (c :: body, rest)
    | c :: rest =>
      if c = '"' && !long then some ([], rest)
      else match if long then closing '"' cs else none with
        | some found => some found
        | none =>
          if isPlain c || (long && (newline? cs).isSome) then do
            let (body, rest) ← basicFrom long fuel rest
            return (c :: body, rest)
          else none

def literalFrom (long : Bool) : List Char → Option (List Char × List Char)
  | [] => none
  | c :: rest =>
    if c = '\x27' && !long then some ([], rest)
    else match if long then closing '\x27' (c :: rest) else none with
      | some found => some found
      | none =>
        if isPlain c || (long && (newline? (c :: rest)).isSome) then do
          let (body, rest) ← literalFrom long rest
          return (c :: body, rest)
        else none

def dropFirstBreak (cs : List Char) : List Char := (newline? cs).getD cs

/-- A text in quotes. Only a value can have several lines. -/
def quotedText (longAllowed : Bool) : List Char → Option (String × List Char)
  | '"' :: '"' :: '"' :: rest =>
    if longAllowed then finish (basicFrom true (rest.length + 1) (dropFirstBreak rest))
    else none
  | '"' :: rest => finish (basicFrom false (rest.length + 1) rest)
  | '\x27' :: '\x27' :: '\x27' :: rest =>
    if longAllowed then finish (literalFrom true (dropFirstBreak rest)) else none
  | '\x27' :: rest => finish (literalFrom false rest)
  | _ => none
where
  finish (found : Option (List Char × List Char)) : Option (String × List Char) :=
    found.map fun (body, rest) => (String.ofList body, rest)

/-! ### Keys -/

def isKeyChar (c : Char) : Bool := c.isAlphanum || c == '_' || c == '-'

def simpleKey (cs : List Char) : Option (String × List Char) :=
  match cs with
  | '"' :: _ | '\x27' :: _ => quotedText false cs
  | cs =>
    let name := cs.takeWhile isKeyChar
    if name.isEmpty then none else some (String.ofList name, cs.dropWhile isKeyChar)

def dottedKeyFrom : Nat → List Char → Option (List String × String × List Char)
  | 0, _ => none
  | fuel + 1, cs => do
    let (name, rest) ← simpleKey (skipBlank cs)
    match skipBlank rest with
    | '.' :: rest =>
      let (path, key, rest) ← dottedKeyFrom fuel rest
      return (name :: path, key, rest)
    | rest => return ([], name, rest)

def maxDepth : Nat := 80

def dottedKey (cs : List Char) : Option (List String × String × List Char) :=
  (dottedKeyFrom (cs.length + 1) cs).filter (·.1.length < maxDepth)

/-! ### Values -/

def isScalarChar (c : Char) : Bool :=
  c.isAlphanum || c == '_' || c == '-' || c == '+' || c == '.' || c == ':'

/-- A value without quotes or brackets. One blank may stand between a date and a time. -/
def bareValue (cs : List Char) : Option (Toml × List Char) :=
  let word := cs.takeWhile isScalarChar
  let rest := cs.dropWhile isScalarChar
  match rest with
  | ' ' :: c :: more =>
    if date? word == some [] && c.isDigit then
      let time := (c :: more).takeWhile isScalarChar
      (scalar? (word ++ ' ' :: time)).map fun v => (v, (c :: more).dropWhile isScalarChar)
    else (scalar? word).map fun v => (v, rest)
  | _ => (scalar? word).map fun v => (v, rest)

mutual

def valueFrom : Nat → Nat → List Char → Option (Toml × List Char)
  | 0, _, _ => none
  | fuel + 1, room, cs =>
    match cs with
    | '"' :: _ | '\x27' :: _ => (quotedText true cs).map fun (s, rest) => (.text s, rest)
    | '[' :: rest =>
      match room with
      | 0 => none
      | room + 1 => do
        let (items, rest) ← itemsFrom fuel room (skipFiller rest)
        return (.list items, rest)
    | '\x7b' :: rest =>
      match room with
      | 0 => none
      | room + 1 => do
        let (pairs, rest) ← pairsFrom fuel room (skipFiller rest)
        return (.closed (← Entries.putAll pairs []), rest)
    | cs => bareValue cs

def itemsFrom : Nat → Nat → List Char → Option (List Toml × List Char)
  | 0, _, _ => none
  | fuel + 1, room, cs =>
    match cs with
    | ']' :: rest => some ([], rest)
    | cs => do
      let (item, rest) ← valueFrom fuel room cs
      match skipFiller rest with
      | ',' :: rest =>
        let (items, rest) ← itemsFrom fuel room (skipFiller rest)
        return (item :: items, rest)
      | ']' :: rest => return ([item], rest)
      | _ => none

def pairsFrom : Nat → Nat → List Char → Option (List Pair × List Char)
  | 0, _, _ => none
  | fuel + 1, room, cs =>
    match cs with
    | '\x7d' :: rest => some ([], rest)
    | cs => do
      let (path, key, rest) ← dottedKey cs
      let (value, rest) ← valueFrom fuel room (skipFiller (← expect '=' (skipFiller rest)))
      let pair : Pair := ⟨path, key, value⟩
      match skipFiller rest with
      | ',' :: rest =>
        let (pairs, rest) ← pairsFrom fuel room (skipFiller rest)
        return (pair :: pairs, rest)
      | '\x7d' :: rest => return ([pair], rest)
      | _ => none

end

/-! ### Documents -/

def headerLine (cs : List Char) : Option (Header × List Char) :=
  match cs with
  | '[' :: '[' :: rest => do
    let (path, key, rest) ← dottedKey rest
    return (.repeated path key, ← endLine (← expect ']' (← expect ']' rest)))
  | '[' :: rest => do
    let (path, key, rest) ← dottedKey rest
    return (.single path key, ← endLine (← expect ']' rest))
  | _ => none

def pairLine (cs : List Char) : Option (Pair × List Char) := do
  let (path, key, rest) ← dottedKey cs
  let (value, rest) ← valueFrom (rest.length + 1) maxDepth (skipBlank (← expect '=' rest))
  return (⟨path, key, value⟩, ← endLine rest)

def sectionsFrom : Nat → List Section → List Char → Option (List Section)
  | 0, _, _ => none
  | fuel + 1, done, cs =>
    match skipFiller cs with
    | [] => some done
    | '[' :: rest => do
      let (header, rest) ← headerLine ('[' :: rest)
      sectionsFrom fuel (⟨header, []⟩ :: done) rest
    | rest => do
      let (pair, rest) ← pairLine rest
      match done with
      | [] => sectionsFrom fuel [⟨.none, [pair]⟩] rest
      | s :: earlier => sectionsFrom fuel ({ s with pairs := s.pairs ++ [pair] } :: earlier) rest

def parse? (text : String) : Option Entries := do
  let cs := match text.toList with
    | '\ufeff' :: rest => rest
    | cs => cs
  ofSections (← sectionsFrom (cs.length + 1) [] cs).reverse

end CodeAtlas.Toml
