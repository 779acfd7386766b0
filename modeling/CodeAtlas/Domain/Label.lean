import CodeAtlas.Domain.DirectionTable
import CodeAtlas.Domain.JoinTable
import CodeAtlas.Text.Composition

/-!
Which labels a domain name may have: a label starts with no mark, joiners stand only where the
script calls for them, and a name with a script that runs from right to left mixes directions only
as far as it stays readable.
-/
namespace CodeAtlas.Domain

abbrev Label := List Char

/-! ### Joiners -/

def nonJoiner : Char := Char.ofNat 0x200C

def joiner : Char := Char.ofNat 0x200D

def vowelKiller : Nat := 9

def reaches (side : List Text.CodeRange) : List Char → Bool
  | [] => false
  | c :: cs =>
    Text.inRanges side c || (Text.inRanges joinedAcross c && reaches side cs)

/-- Whether a joiner may stand between what is before it (nearest character first) and after it. -/
def joinerFits (c : Char) (before after : List Char) : Bool :=
  match before with
  | [] => false
  | b :: _ =>
    Text.markClass b = vowelKiller ||
      (c = nonJoiner && reaches joiningOn before && reaches joiningBack after)

def joinersFitFrom (before : List Char) : List Char → Bool
  | [] => true
  | c :: cs =>
    ((c ≠ nonJoiner && c ≠ joiner) || joinerFits c before cs) && joinersFitFrom (c :: before) cs

/-! ### Directions -/

inductive Direction where
  | left
  | right
  | arabicDigit
  | digit
  | mark
  | neutral
  /-- Blanks and controls, which have no place in a label. -/
  | none
  deriving DecidableEq, Repr

def direction (c : Char) : Direction :=
  if c.toNat ≤ 0x20 then .none
  else if Text.inRanges leftward c then .right
  else if Text.inRanges arabicDigits c then .arabicDigit
  else if Text.inRanges plainDigits c then .digit
  else if Text.inRanges directionless c then .mark
  else if Text.inRanges neutrals c then .neutral
  else .left

def isMixed (l : Label) : Bool := l.any fun c => [.right, .arabicDigit].contains (direction c)

/-- A label that runs from left to right has no letter that runs the other way, and ends in a letter
or a digit. One from right to left has no letter from left to right, one kind of digits, and ends in
a letter or a digit. Marks at the end do not count. -/
def directionsFit (l : Label) : Bool :=
  let ds := l.map direction
  let last := (ds.reverse.dropWhile (· = .mark)).head?
  match ds with
  | [] => true
  | .left :: _ =>
    ds.all [.left, .digit, .neutral, .mark].contains && [some .left, some .digit].contains last
  | .right :: _ =>
    ds.all [.right, .arabicDigit, .digit, .neutral, .mark].contains &&
      [some .right, some .digit, some .arabicDigit].contains last &&
      !(ds.contains .digit && ds.contains .arabicDigit)
  | _ => false

/-! ### Labels -/

def startsWithMark : Label → Bool
  | [] => false
  | c :: _ => Text.inRanges marks c

def Label.isSound (l : Label) : Bool := !startsWithMark l && joinersFitFrom [] l

end CodeAtlas.Domain
