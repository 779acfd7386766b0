/-!
Texts beyond ASCII written in ASCII: the ASCII characters first, then, in ascending order, where each
other character goes. A place is given by its distance from the one before, in digits whose weights
adapt to the distances seen.
-/
namespace CodeAtlas.Domain.Punycode

def digitBase : Nat := 36

def firstBias : Nat := 72

def firstCode : Nat := 128

def digitChar (d : Nat) : Char := Char.ofNat (if d < 26 then 97 + d else 22 + d)

def digitValue? (c : Char) : Option Nat :=
  if 'a' ≤ c && c ≤ 'z' then some (c.toNat - 97)
  else if 'A' ≤ c && c ≤ 'Z' then some (c.toNat - 65)
  else if '0' ≤ c && c ≤ '9' then some (c.toNat - 22)
  else none

def threshold (place bias : Nat) : Nat :=
  if place ≤ bias then 1 else if bias + 26 ≤ place then 26 else place - bias

theorem threshold_pos (place bias : Nat) : 0 < threshold place bias := by
  unfold threshold
  split
  · omega
  · split <;> omega

def shrinkTo455 (delta places : Nat) : Nat × Nat :=
  if 455 < delta then shrinkTo455 (delta / 35) (places + digitBase) else (delta, places)
termination_by delta
decreasing_by exact Nat.div_lt_self (by omega) (by omega)

def adapt (delta count : Nat) (isFirst : Bool) : Nat :=
  let delta := if isFirst then delta / 700 else delta / 2
  let (delta, places) := shrinkTo455 (delta + delta / count) 0
  places + digitBase * delta / (delta + 38)

/-! ### Writing -/

def digits (bias place delta : Nat) : List Char :=
  let t := threshold place bias
  if delta < t then [digitChar delta]
  else
    digitChar (t + (delta - t) % (digitBase - t)) ::
      digits bias (place + digitBase) ((delta - t) / (digitBase - t))
termination_by delta
decreasing_by
  have := threshold_pos place bias
  exact Nat.lt_of_le_of_lt (Nat.div_le_self _ _) (by omega)

structure Writing where
  /-- What is written, last character first. -/
  written : List Char
  delta : Nat := 0
  bias : Nat := firstBias
  placed : Nat

def Writing.pass (basic code : Nat) (w : Writing) (c : Char) : Writing :=
  if c.toNat < code then { w with delta := w.delta + 1 }
  else if c.toNat = code then
    { written := (digits w.bias digitBase w.delta).reverse ++ w.written
      delta := 0
      bias := adapt w.delta (w.placed + 1) (w.placed = basic)
      placed := w.placed + 1 }
  else w

def writeCodes (text : List Char) (basic : Nat) : List Nat → Nat → Writing → Writing
  | [], _, w => w
  | code :: codes, next, w =>
    let w := { w with delta := w.delta + (code - next) * (w.placed + 1) }
    let w := text.foldl (Writing.pass basic code) w
    writeCodes text basic codes (code + 1) { w with delta := w.delta + 1 }

def isBasic (c : Char) : Bool := c.toNat < firstCode

def wideCodes (text : List Char) : List Nat :=
  let codes := ((text.filter (!isBasic ·)).map Char.toNat).mergeSort
  codes.foldr (fun n ns => if ns.head? = some n then ns else n :: ns) []

def encode (text : List Char) : List Char :=
  let basic := text.filter isBasic
  let start := if basic.isEmpty then [] else basic ++ ['-']
  (writeCodes text basic.length (wideCodes text) firstCode
    { written := start.reverse, placed := basic.length }).written.reverse

/-! ### Reading -/

def maxNumber : Nat := Nat.pow 2 32 - 1

def distance? (bias : Nat) : Nat → Nat → Nat → List Char → Option (Nat × List Char)
  | _, _, _, [] => none
  | place, weight, sum, c :: cs => do
    let d ← digitValue? c
    let sum := sum + d * weight
    if sum > maxNumber then none
    else
      let t := threshold place bias
      if d < t then some (sum, cs)
      else
        let weight := weight * (digitBase - t)
        if weight > maxNumber then none
        else distance? bias (place + digitBase) weight sum cs

theorem length_of_distance? {bias place weight sum : Nat} {cs rest : List Char} {n : Nat}
    (h : distance? bias place weight sum cs = some (n, rest)) : rest.length < cs.length := by
  induction cs generalizing place weight sum with
  | nil => simp [distance?] at h
  | cons c cs ih =>
    simp only [distance?, Option.bind_eq_bind, Option.bind_eq_some_iff] at h
    obtain ⟨d, _, h⟩ := h
    split at h
    · simp at h
    · split at h
      · simp_all
      · split at h
        · simp at h
        · have := ih h
          simp only [List.length_cons]
          omega

def isCharCode (n : Nat) : Bool := n < 0xD800 || (0xE000 ≤ n && n ≤ 0x10FFFF)

def readFrom (digits : List Char) (text : List Char) (code place bias : Nat) (isFirst : Bool) :
    Option (List Char) :=
  if digits.isEmpty then some text
  else
    match _h : distance? bias digitBase 1 place digits with
    | none => none
    | some (sum, rest) =>
      let count := text.length + 1
      let code := code + sum / count
      let at' := sum % count
      if isCharCode code then
        readFrom rest (text.take at' ++ Char.ofNat code :: text.drop at') code (at' + 1)
          (adapt (sum - place) count isFirst) false
      else none
termination_by digits.length
decreasing_by exact length_of_distance? _h

/-- The text that was written so. What stands before the last hyphen is ASCII, and not empty. -/
def decode? (written : List Char) : Option (List Char) :=
  let tail := (written.reverse.takeWhile (· ≠ '-')).reverse
  match written.take (written.length - tail.length) with
  | [_] => none
  | front =>
    let basic := front.dropLast
    if basic.all isBasic then readFrom tail basic firstCode 0 firstBias true else none

end CodeAtlas.Domain.Punycode
