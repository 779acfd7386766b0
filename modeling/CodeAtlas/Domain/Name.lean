import CodeAtlas.Domain.FoldTable
import CodeAtlas.Domain.Label
import CodeAtlas.Domain.Punycode

/-!
Domain names in ASCII. Characters are folded first, so that a name has one spelling; then a label
beyond ASCII is written in ASCII behind `xn--`. A label that comes so has to be one that folding
leaves as it is.
-/
namespace CodeAtlas.Domain

def fold? (c : Char) : Option (List Char) :=
  if Text.inRanges barred c then none
  else if Text.inRanges dropped c then some []
  else match folded.find? (·.covers c.toNat) with
    | some r => some ((r.image c.toNat).map Char.ofNat)
    | none => some [c]

def foldAll? (cs : List Char) : Option (List Char) :=
  (cs.mapM fold?).map fun parts => Text.composed parts.flatten

def isForbidden (c : Char) : Bool :=
  c.toNat ≤ 0x20 || c.toNat == 0x7F || "#/:<>?@[\\]^|%".toList.contains c

structure Entry where
  ascii : List Char
  wide : Label

def maxWritten : Nat := 2000

def maxWide : Nat := 1000

def readLabel? (l : Label) : Option Entry := do
  let written := l.drop 4
  if written.length > maxWritten then none
  else
    let wide ← Punycode.decode? written
    if !wide.all Punycode.isBasic && foldAll? wide = some wide && Label.isSound wide then
      some ⟨l, wide⟩
    else none

def writeLabel? (l : Label) : Option Entry :=
  if !Label.isSound l then none
  else if l.all Punycode.isBasic then some ⟨l, l⟩
  else if l.length > maxWide then none
  else some ⟨"xn--".toList ++ Punycode.encode l, l⟩

def entry? (l : Label) : Option Entry :=
  if "xn--".toList.isPrefixOf l then readLabel? l else writeLabel? l

/-- The name in ASCII; none if it may not be used. -/
def toAscii? (name : List Char) : Option (List Char) := do
  let folded ← foldAll? name
  if folded.any isForbidden then none
  else
    let entries ← (Text.parts (· = '.') folded).mapM entry?
    if entries.any (isMixed ·.wide) && !entries.all (directionsFit ·.wide) then none
    else some (['.'].intercalate (entries.map (·.ascii)))

end CodeAtlas.Domain
