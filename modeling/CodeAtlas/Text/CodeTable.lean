import CodeAtlas.Text.Parts
import CodeAtlas.Text.Utf8

/-!
Tables of characters, written as text: words apart by blanks, each with code points in hexadecimal
digits.
-/
namespace CodeAtlas.Text

structure CodeRange where
  first : Nat
  last : Nat
  deriving DecidableEq, Repr

def CodeRange.contains (r : CodeRange) (c : Nat) : Bool := r.first ≤ c && c ≤ r.last

def inRanges (rs : List CodeRange) (c : Char) : Bool := rs.any (·.contains c.toNat)

def tableWords (text : String) : List (List Char) :=
  (parts (fun c => c == ' ' || c == '\n') text.toList).filter (!·.isEmpty)

def numberIn (base : Nat) (ds : List Char) : Nat :=
  ds.foldl (fun n c => n * base + (hexValue? c).getD 0) 0

def CodeRange.ofWord (word : List Char) : CodeRange :=
  match parts (· = '-') word with
  | [first, last] => ⟨numberIn 16 first, numberIn 16 last⟩
  | _ => ⟨numberIn 16 word, numberIn 16 word⟩

def CodeRange.listOf (text : String) : List CodeRange := (tableWords text).map .ofWord

/-- Code points from `first` to `last`, every `stride`, that stand for others. A single target moves
along with the code point; several are the same for all. -/
structure FoldRun where
  first : Nat
  last : Nat
  stride : Nat
  target : List Nat
  deriving DecidableEq, Repr

namespace FoldRun

def covers (r : FoldRun) (c : Nat) : Bool :=
  r.first ≤ c && c ≤ r.last && (c - r.first) % r.stride == 0

def image (r : FoldRun) (c : Nat) : List Nat :=
  match r.target with
  | [t] => [t + (c - r.first)]
  | ts => ts

def ofWord (word : List Char) : FoldRun :=
  let (source, targets) := match parts (· = '>') word with
    | [source, targets] => (source, targets)
    | _ => (word, word)
  let (range, stride) := match parts (· = '/') source with
    | [range, stride] => (range, numberIn 10 stride)
    | _ => (source, 1)
  let range := CodeRange.ofWord range
  ⟨range.first, range.last, stride, (parts (· = ',') targets).map (numberIn 16)⟩

def listOf (text : String) : List FoldRun := (tableWords text).map .ofWord

end FoldRun

def classesOf (text : String) : List (CodeRange × Nat) :=
  (tableWords text).map fun word =>
    match parts (· = ':') word with
    | [range, number] => (.ofWord range, numberIn 10 number)
    | _ => (.ofWord word, 0)

end CodeAtlas.Text
