import CodeAtlas.Json.Value

/-!
Reading JSON text, character by character. A value can be kept or skipped. A kept value has
numbers in range, paired surrogates and bounded nesting; a skipped one only has to be well formed.
A fault says whether the text ended too early or was malformed. A reader gives what it read and
the text after it.
-/
namespace CodeAtlas.Json

inductive Fault where
  | ended
  | malformed
  deriving DecidableEq, Repr

inductive Mode where
  | keep
  | skip
  deriving DecidableEq, Repr

def isSpace (c : Char) : Bool := c == ' ' || c == '\n' || c == '\t' || c == '\r'

def skipSpace (cs : List Char) : List Char := cs.dropWhile isSpace

def isDigit (c : Char) : Bool := '0' ≤ c && c ≤ '9'

def digitValue (c : Char) : Nat := c.toNat - 48

/-! ### Texts -/

def hexValue? (c : Char) : Option Nat :=
  if isDigit c then some (c.toNat - 48)
  else if 'a' ≤ c && c ≤ 'f' then some (c.toNat - 87)
  else if 'A' ≤ c && c ≤ 'F' then some (c.toNat - 55)
  else none

def hasBytes : Nat → List Char → Bool
  | 0, _ => true
  | _ + 1, [] => false
  | n + 1, c :: cs => hasBytes (n + 1 - c.utf8Size) cs

/-- Four hexadecimal digits. A text with fewer than four bytes left has ended. -/
def hexQuad (cs : List Char) : Except Fault (Nat × List Char) :=
  if !hasBytes 4 cs then .error .ended else
  match cs with
  | a :: b :: c :: d :: rest =>
    match hexValue? a, hexValue? b, hexValue? c, hexValue? d with
    | some a, some b, some c, some d => .ok (((a * 16 + b) * 16 + c) * 16 + d, rest)
    | _, _, _, _ => .error .malformed
  | _ => .error .malformed

def isLeading (n : Nat) : Bool := 0xd800 ≤ n && n ≤ 0xdbff

def isTrailing (n : Nat) : Bool := 0xdc00 ≤ n && n ≤ 0xdfff

def trailingHalf (lead : Nat) : List Char → Except Fault (Char × List Char)
  | [] => .error .ended
  | ['\\'] => .error .ended
  | '\\' :: 'u' :: rest => do
    let (trail, rest) ← hexQuad rest
    if isTrailing trail then
      return (Char.ofNat ((lead - 0xd800) * 0x400 + (trail - 0xdc00) + 0x10000), rest)
    else .error .malformed
  | _ => .error .malformed

def escape (mode : Mode) : List Char → Except Fault (Char × List Char)
  | [] => .error .ended
  | '"' :: rest => .ok ('"', rest)
  | '\\' :: rest => .ok ('\\', rest)
  | '/' :: rest => .ok ('/', rest)
  | 'b' :: rest => .ok (Char.ofNat 8, rest)
  | 'f' :: rest => .ok (Char.ofNat 12, rest)
  | 'n' :: rest => .ok ('\n', rest)
  | 'r' :: rest => .ok ('\r', rest)
  | 't' :: rest => .ok ('\t', rest)
  | 'u' :: rest => do
    let (n, rest) ← hexQuad rest
    match mode with
    | .skip => return (' ', rest)
    | .keep =>
      if isTrailing n then .error .malformed
      else if isLeading n then trailingHalf n rest
      else return (Char.ofNat n, rest)
  | _ => .error .malformed

/-- The rest of a text after its opening quote. Each step takes a character, so the length of the
input bounds the steps. -/
def textFrom (mode : Mode) : Nat → List Char → Except Fault (List Char × List Char)
  | 0, _ => .error .ended
  | _ + 1, [] => .error .ended
  | _ + 1, '"' :: rest => .ok ([], rest)
  | fuel + 1, '\\' :: rest => do
    let (c, rest) ← escape mode rest
    let (cs, rest) ← textFrom mode fuel rest
    return (c :: cs, rest)
  | fuel + 1, c :: rest =>
    if c.toNat < 32 then .error .malformed
    else do
      let (cs, rest) ← textFrom mode fuel rest
      return (c :: cs, rest)

def readText (mode : Mode) (cs : List Char) : Except Fault (String × List Char) := do
  let (text, rest) ← textFrom mode (cs.length + 1) cs
  return (String.ofList text, rest)

/-! ### Numbers -/

def largest64 : Nat := Nat.pow 2 64 - 1

/-- Digits gathered into a 64-bit significand. Digits that no longer fit are counted. -/
structure Gathered where
  significand : Nat
  dropped : Nat
  deriving DecidableEq, Repr

def gather (significand : Nat) : List Char → Gathered
  | [] => ⟨significand, 0⟩
  | d :: ds =>
    let next := significand * 10 + digitValue d
    if next ≤ largest64 then gather next ds else ⟨significand, ds.length + 1⟩

def powerOfTen (k : Nat) : Float := Float.ofScientific 1 false k

/-- The significand, rounded, scaled by one power of ten, and rounded again. Exponents below
`-308` take a first step of that size. A result beyond the largest number is none. -/
def scale (significand : Nat) (exponent : Int) : Option Float :=
  let f := Float.ofNat significand
  if exponent.natAbs ≤ 308 then settle f exponent
  else if significand == 0 then some f
  else if 0 ≤ exponent then none
  else
    let f := f / powerOfTen 308
    let exponent := exponent + 308
    if exponent.natAbs ≤ 308 then settle f exponent
    else some (f / powerOfTen 308 / powerOfTen 308)
where
  settle (f : Float) (e : Int) : Option Float :=
    if 0 ≤ e then
      let g := f * powerOfTen e.toNat
      if g.isInf then none else some g
    else some (f / powerOfTen e.natAbs)

def realOf (negative : Bool) (significand : Nat) (exponent : Int) (rest : List Char) :
    Except Fault (Number × List Char) :=
  match scale significand exponent with
  | some x => .ok (.real (if negative then -x else x), rest)
  | none => .error .malformed

def exponentSign : List Char → Bool × List Char
  | '+' :: rest => (false, rest)
  | '-' :: rest => (true, rest)
  | cs => (false, cs)

/-- The exponent after its mark. It has to fit 31 bits; a larger one leaves zero or nothing. -/
def exponentPart (mode : Mode) (negative : Bool) (significand : Nat) (start : Int)
    (cs : List Char) : Except Fault (Number × List Char) :=
  let (down, cs) := exponentSign cs
  match cs with
  | [] => .error (if mode = .keep then .ended else .malformed)
  | c :: _ =>
    if !isDigit c then .error .malformed
    else
      let (ds, rest) := cs.span isDigit
      let size := ds.foldl (fun n d => n * 10 + digitValue d) 0
      if mode = .skip then .ok (.int 0, rest)
      else if size < Nat.pow 2 31 then
        let e :=
          if down then max (start - size) (-(Nat.pow 2 31))
          else min (start + size) (Nat.pow 2 31 - 1)
        realOf negative significand e rest
      else if significand != 0 && !down then .error .malformed
      else .ok (.real (if negative then -0.0 else 0.0), rest)

def numberTail (mode : Mode) (negative : Bool) (g : Gathered) (cs : List Char) :
    Except Fault (Number × List Char) :=
  match cs with
  | '.' :: rest =>
    let (ds, rest) := rest.span isDigit
    if ds.isEmpty then .error (if rest.isEmpty && mode = .keep then .ended else .malformed)
    else
      let after := gather g.significand ds
      let start : Int := (g.dropped : Int) - (ds.length - after.dropped : Nat)
      match rest with
      | 'e' :: rest | 'E' :: rest => exponentPart mode negative after.significand start rest
      | _ =>
        if mode = .skip then .ok (.int 0, rest) else realOf negative after.significand start rest
  | 'e' :: rest | 'E' :: rest => exponentPart mode negative g.significand g.dropped rest
  | _ =>
    if mode = .skip then .ok (.int 0, cs)
    else if g.dropped != 0 then realOf negative g.significand g.dropped cs
    else if !negative then .ok (.int g.significand, cs)
    else if g.significand == 0 || Nat.pow 2 63 < g.significand then
      .ok (.real (-(Float.ofNat g.significand)), cs)
    else .ok (.int (-(g.significand : Int)), cs)

def readNumber (mode : Mode) (negative : Bool) (cs : List Char) :
    Except Fault (Number × List Char) :=
  match cs with
  | [] => .error (if mode = .keep then .ended else .malformed)
  | c :: _ =>
    if !isDigit c then .error .malformed
    else
      let (ds, rest) := cs.span isDigit
      if c == '0' && ds.length != 1 then .error .malformed
      else numberTail mode negative (gather 0 ds) rest

/-! ### Values -/

def readWord (word : List Char) (cs : List Char) : Except Fault (Unit × List Char) :=
  match word, cs with
  | [], cs => .ok ((), cs)
  | _ :: _, [] => .error .ended
  | w :: word, c :: cs => if w == c then readWord word cs else .error .malformed

def readColon (cs : List Char) : Except Fault (Unit × List Char) :=
  match skipSpace cs with
  | [] => .error .ended
  | ':' :: rest => .ok ((), rest)
  | _ => .error .malformed

def nextItem (close : Char) (first : Bool) (cs : List Char) :
    Except Fault (Option (List Char) × List Char) :=
  match skipSpace cs with
  | [] => .error .ended
  | c :: rest =>
    if c == close then .ok (none, rest)
    else if first then .ok (some (c :: rest), [])
    else if c == ',' then
      match skipSpace rest with
      | [] => .error .ended
      | c :: rest => if c == close then .error .malformed else .ok (some (c :: rest), [])
    else .error .malformed

mutual

/-- A value. `room` bounds the nesting of a kept value; `fuel` bounds the steps and is at least the
length of the text. -/
def valueFrom (mode : Mode) : Nat → Nat → List Char → Except Fault (Json × List Char)
  | 0, _, _ => .error .ended
  | fuel + 1, room, cs =>
    match skipSpace cs with
    | [] => .error .ended
    | 'n' :: rest => do
      let (_, rest) ← readWord ['u', 'l', 'l'] rest
      return (.null, rest)
    | 't' :: rest => do
      let (_, rest) ← readWord ['r', 'u', 'e'] rest
      return (.bool true, rest)
    | 'f' :: rest => do
      let (_, rest) ← readWord ['a', 'l', 's', 'e'] rest
      return (.bool false, rest)
    | '"' :: rest => do
      let (s, rest) ← readText mode rest
      return (.str s, rest)
    | '-' :: rest => do
      let (n, rest) ← readNumber mode true rest
      return (.num n, rest)
    | '[' :: rest =>
      if mode = .keep && room ≤ 1 then .error .malformed
      else do
        let (items, rest) ← itemsFrom mode fuel (room - 1) true rest
        return (.arr items, rest)
    | '\x7b' :: rest =>
      if mode = .keep && room ≤ 1 then .error .malformed
      else do
        let (fields, rest) ← fieldsFrom mode fuel (room - 1) true [] rest
        return (.obj fields, rest)
    | c :: rest =>
      if isDigit c then do
        let (n, rest) ← readNumber mode false (c :: rest)
        return (.num n, rest)
      else .error .malformed

def itemsFrom (mode : Mode) :
    Nat → Nat → Bool → List Char → Except Fault (List Json × List Char)
  | 0, _, _, _ => .error .ended
  | fuel + 1, room, first, cs => do
    match ← nextItem ']' first cs with
    | (none, rest) => return ([], rest)
    | (some start, _) =>
      let (item, rest) ← valueFrom mode fuel room start
      let (items, rest) ← itemsFrom mode fuel room false rest
      return (item :: items, rest)

def fieldsFrom (mode : Mode) :
    Nat → Nat → Bool → Dict Json → List Char → Except Fault (Dict Json × List Char)
  | 0, _, _, _, _ => .error .ended
  | fuel + 1, room, first, read, cs => do
    match ← nextItem '\x7d' first cs with
    | (none, rest) => return (read, rest)
    | (some start, _) =>
      match start with
      | '"' :: rest =>
        let (name, rest) ← readText mode rest
        let (_, rest) ← readColon rest
        let (value, rest) ← valueFrom mode fuel room rest
        fieldsFrom mode fuel room false (read.insert name value) rest
      | _ => .error .malformed

end

/-- Nesting that a whole document may have, counting the document itself. -/
def documentRoom : Nat := 128

def readValue (mode : Mode) (room : Nat) (cs : List Char) : Except Fault (Json × List Char) :=
  valueFrom mode (2 * cs.length + 2) room cs

def atEnd (cs : List Char) : Except Fault Unit :=
  if (skipSpace cs).isEmpty then .ok () else .error .malformed

def parse (text : String) : Except Fault Json := do
  let (value, rest) ← readValue .keep documentRoom text.toList
  atEnd rest
  return value

def parse? (text : String) : Option Json := (parse text).toOption

end CodeAtlas.Json
