import CodeAtlas.Text.CompositionTable

/-!
The composed form of a text: letters and their marks are put in one order, and written as one
character where there is one.
-/
namespace CodeAtlas.Text

/-- The class of a mark; what is no mark, or takes no part in the order, has class zero. -/
def markClass (c : Char) : Nat :=
  ((markClasses.find? (·.1.contains c.toNat)).map (·.2)).getD 0

/-! ### Syllables

A syllable is a lead, a vowel and perhaps a tail, and has a number of its own. -/

def syllableBase : Nat := 0xAC00

def leadBase : Nat := 0x1100

def vowelBase : Nat := 0x1161

def tailBase : Nat := 0x11A7

def vowelCount : Nat := 21

def tailCount : Nat := 28

def isSyllable (c : Char) : Bool := syllableBase ≤ c.toNat && c.toNat < syllableBase + 11172

def splitSyllable (c : Char) : List Char :=
  let n := c.toNat - syllableBase
  let tail := n % tailCount
  [Char.ofNat (leadBase + n / (vowelCount * tailCount)),
    Char.ofNat (vowelBase + n % (vowelCount * tailCount) / tailCount)] ++
  if tail = 0 then [] else [Char.ofNat (tailBase + tail)]

def joinSyllable (a b : Char) : Option Char :=
  let x := a.toNat
  let y := b.toNat
  if leadBase ≤ x && x < leadBase + 19 && vowelBase ≤ y && y < vowelBase + vowelCount then
    some (Char.ofNat
      (syllableBase + ((x - leadBase) * vowelCount + (y - vowelBase)) * tailCount))
  else if isSyllable a && (x - syllableBase) % tailCount = 0 && tailBase < y &&
      y < tailBase + tailCount then
    some (Char.ofNat (x + (y - tailBase)))
  else none

/-! ### Taking apart -/

def takeApart : Nat → Char → List Char
  | 0, c => [c]
  | fuel + 1, c =>
    if isSyllable c then splitSyllable c
    else match composites.find? (·.first = c.toNat) with
      | some ⟨_, _, _, [a, b]⟩ => takeApart fuel (Char.ofNat a) ++ [Char.ofNat b]
      | _ => [c]

def decomposed (c : Char) : List Char := takeApart 3 c

def insertMark (c : Char) : List Char → List Char
  | [] => [c]
  | d :: ds =>
    if markClass d ≠ 0 && markClass c < markClass d then
      d :: insertMark c ds
    else c :: d :: ds

/-- The marks between two letters by their class, those of one class in the order they have. The
last character comes first here. -/
def ordered (cs : List Char) : List Char :=
  (cs.foldl (fun done c => if markClass c = 0 then c :: done else insertMark c done) []).reverse

/-! ### Putting together -/

def compose? (a b : Char) : Option Char :=
  match joinSyllable a b with
  | some c => some c
  | none =>
    (composites.find? (·.target = [a.toNat, b.toNat])).map fun r => Char.ofNat r.first

structure Growing where
  /-- What is finished, last character first. -/
  done : List Char := []
  letter : Option Char := none
  /-- Marks that could not be put into the letter, last one first. -/
  held : List Char := []

namespace Growing

def close (g : Growing) : List Char := g.held ++ g.letter.toList ++ g.done

/-- A mark of the same or a higher class between a mark and its letter keeps them apart. -/
def isBlocked (g : Growing) (c : Char) : Bool :=
  match g.held with
  | [] => false
  | d :: _ => markClass c ≤ markClass d

def next (g : Growing) (c : Char) : Growing :=
  match g.letter with
  | none => if markClass c = 0 then { g with letter := some c } else { g with done := c :: g.done }
  | some letter =>
    match if g.isBlocked c then none else compose? letter c with
    | some whole => { g with letter := some whole }
    | none =>
      if markClass c = 0 then ⟨g.close, some c, []⟩ else { g with held := c :: g.held }

end Growing

def composed (cs : List Char) : List Char :=
  ((ordered (cs.flatMap decomposed)).foldl Growing.next {}).close.reverse

end CodeAtlas.Text
