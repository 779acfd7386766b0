import CodeAtlas.Text.CaseTable

/-!
Lower case over all of Unicode. One capital becomes two characters, and the capital sigma has two
lower-case forms: the final one stands at the end of a word.
-/
namespace CodeAtlas.Text

def isCased (c : Char) : Bool := inRanges casedRanges c

def isCaseIgnorable (c : Char) : Bool := inRanges caseIgnorableRanges c

def CaseRun.covers (r : CaseRun) (c : Nat) : Bool :=
  r.first ≤ c && c ≤ r.last && (c - r.first) % r.stride == 0

def lowerChar (c : Char) : List Char :=
  if c.toNat == 0x130 then ['i', Char.ofNat 0x307] else
  match lowercaseRuns.find? (·.covers c.toNat) with
  | some r => [Char.ofNat ((c.toNat : Int) + r.shift).toNat]
  | none => [c]

/-- Whether a letter with case comes first once the characters that words may hold are skipped. -/
def meetsCased (cs : List Char) : Bool :=
  match cs.dropWhile isCaseIgnorable with
  | c :: _ => isCased c
  | [] => false

def lowerSigma (before after : List Char) : Char :=
  if meetsCased before && !meetsCased after then 'ς' else 'σ'

def lowerAfter (before : List Char) : List Char → List Char
  | [] => []
  | c :: cs =>
    (if c == 'Σ' then [lowerSigma before cs] else lowerChar c) ++ lowerAfter (c :: before) cs

def lowercase (s : String) : String := String.ofList (lowerAfter [] s.toList)

def lowerAscii (c : Char) : Char :=
  if 'A' ≤ c && c ≤ 'Z' then Char.ofNat (c.toNat + 32) else c

end CodeAtlas.Text
