import CodeAtlas.Decimal.Nearest
import CodeAtlas.Json.Reader
import CodeAtlas.Toml.Value

/-!
TOML values without quotes or brackets: numbers, words and moments of time.
-/
namespace CodeAtlas.Toml

open Decimal (nearest?)
open Json (isDigit digitValue hexValue?)

/-- Digits without the underscores between them. An underscore stands between two digits. -/
def ungroup (ok : Char → Bool) : List Char → Option (List Char)
  | [] => none
  | [c] => if ok c then some [c] else none
  | c :: '_' :: rest => if ok c then (ungroup ok rest).map (c :: ·) else none
  | c :: rest => if ok c then (ungroup ok rest).map (c :: ·) else none

def valueIn (base : Nat) (ds : List Char) : Nat :=
  ds.foldl (fun n c => n * base + (hexValue? c).getD 0) 0

/-- A decimal number that starts with zero is just that zero. -/
def decimal? (cs : List Char) : Option Nat :=
  match ungroup isDigit cs with
  | some ('0' :: _ :: _) => none
  | some ds => some (valueIn 10 ds)
  | none => none

def isDigitBelow (base : Nat) (c : Char) : Bool :=
  match hexValue? c with
  | some v => v < base
  | none => false

def inRange (n : Int) : Bool := -(Nat.pow 2 127 : Int) ≤ n && n < (Nat.pow 2 128 : Int)

def integer? : List Char → Option Int
  | '0' :: 'x' :: cs => (ungroup (isDigitBelow 16) cs).map fun ds => valueIn 16 ds
  | '0' :: 'o' :: cs => (ungroup (isDigitBelow 8) cs).map fun ds => valueIn 8 ds
  | '0' :: 'b' :: cs => (ungroup (isDigitBelow 2) cs).map fun ds => valueIn 2 ds
  | '+' :: cs => (decimal? cs).map fun n => n
  | '-' :: cs => (decimal? cs).map fun n => -(n : Int)
  | cs => (decimal? cs).map fun n => n

def exponent? : List Char → Option Int
  | [] => some 0
  | 'e' :: cs | 'E' :: cs =>
    match cs with
    | '+' :: cs => (ungroup isDigit cs).map fun ds => valueIn 10 ds
    | '-' :: cs => (ungroup isDigit cs).map fun ds => -(valueIn 10 ds : Int)
    | cs => (ungroup isDigit cs).map fun ds => valueIn 10 ds
  | _ => none

def magnitude? (cs : List Char) : Option Float := do
  let isPart (c : Char) : Bool := isDigit c || c == '_'
  let whole ← decimal? (cs.takeWhile isPart)
  match cs.dropWhile isPart with
  | '.' :: rest =>
    let fraction ← ungroup isDigit (rest.takeWhile isPart)
    let e ← exponent? (rest.dropWhile isPart)
    nearest? (whole * Nat.pow 10 fraction.length + valueIn 10 fraction) (e - fraction.length)
  | [] => none
  | rest => nearest? whole (← exponent? rest)

def real? : List Char → Option Float
  | '+' :: cs => unsigned cs
  | '-' :: cs => (unsigned cs).map fun x => -x
  | cs => unsigned cs
where
  unsigned (cs : List Char) : Option Float :=
    if cs = "inf".toList then some (1.0 / 0.0)
    else if cs = "nan".toList then some (0.0 / 0.0)
    else magnitude? cs

/-! ### Moments -/

def field? (width lo hi : Nat) (cs : List Char) : Option (Nat × List Char) :=
  let ds := cs.take width
  let n := valueIn 10 ds
  if ds.length = width && ds.all isDigit && lo ≤ n && n ≤ hi then some (n, cs.drop width) else none

def expect (c : Char) : List Char → Option (List Char)
  | d :: rest => if d = c then some rest else none
  | [] => none

def daysIn (year month : Nat) : Nat :=
  if month = 2 then
    if (year % 4 = 0 && year % 100 ≠ 0) || year % 400 = 0 then 29 else 28
  else if month = 4 || month = 6 || month = 9 || month = 11 then 30
  else 31

def date? (cs : List Char) : Option (List Char) := do
  let (year, cs) ← field? 4 0 9999 cs
  let (month, cs) ← field? 2 1 12 (← expect '-' cs)
  let (_, cs) ← field? 2 1 (daysIn year month) (← expect '-' cs)
  return cs

def time? (cs : List Char) : Option (List Char) := do
  let (_, cs) ← field? 2 0 23 cs
  let (_, cs) ← field? 2 0 59 (← expect ':' cs)
  match cs with
  | ':' :: rest =>
    let (_, rest) ← field? 2 0 60 rest
    match rest with
    | '.' :: fraction =>
      if (fraction.takeWhile isDigit).isEmpty then none else some (fraction.dropWhile isDigit)
    | rest => some rest
  | rest => some rest

def offset? : List Char → Option (List Char)
  | 'Z' :: rest | 'z' :: rest => some rest
  | '+' :: rest | '-' :: rest => do
    let (_, rest) ← field? 2 0 23 rest
    let (_, rest) ← field? 2 0 59 (← expect ':' rest)
    return rest
  | _ => none

/-- Whether a text is a date, a time of day, or both, then perhaps with an offset. -/
def isMoment (cs : List Char) : Bool :=
  match date? cs with
  | some [] => true
  | some (sep :: rest) =>
    (sep = 'T' || sep = 't' || sep = ' ') &&
      match time? rest with
      | some [] => true
      | some rest => offset? rest == some []
      | none => false
  | none => time? cs == some []

def scalar? (cs : List Char) : Option Toml :=
  if cs = "true".toList then some (.boolean true)
  else if cs = "false".toList then some (.boolean false)
  else match integer? cs with
    | some n => if inRange n then some (.integer n) else none
    | none =>
      match real? cs with
      | some x => some (.real x)
      | none => if isMoment cs then some .moment else none

end CodeAtlas.Toml
