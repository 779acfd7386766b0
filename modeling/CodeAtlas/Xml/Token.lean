import CodeAtlas.Xml.Name

/-!
The content of an XML element as a list of tokens: tags, texts, and remarks, which are comments and
instructions. References are kept as they are written.
-/
namespace CodeAtlas.Xml

inductive Ending where
  | opened
  | empty
  | cut
  deriving DecidableEq, Repr

inductive Token where
  /-- `<name attrs>`, or with `/` at its end if it is empty. -/
  | start (name : Name) (attrs : List (Name × List Char)) (ending : Ending)
  /-- `</name>` -/
  | stop (name : Name)
  /-- Text in which references stand for other text. -/
  | text (raw : List Char)
  /-- Text that stands for itself. -/
  | data (cs : List Char)
  | remark
  deriving DecidableEq, Repr

def divide? (mark : List Char) : List Char → Option (List Char × List Char)
  | [] => none
  | c :: cs =>
    if mark.isPrefixOf (c :: cs) then some ([], (c :: cs).drop mark.length)
    else (divide? mark cs).map fun (before, rest) => (c :: before, rest)

def holds (mark cs : List Char) : Bool := (divide? mark cs).isSome

def after? (opening : String) (cs : List Char) : Option (List Char) :=
  if opening.toList.isPrefixOf cs then some (cs.drop opening.toList.length) else none

def until? (mark : String) (cs : List Char) : Option (List Char × List Char) :=
  (divide? mark.toList cs).filter fun (before, _) => before.all isChar

/-! ### Remarks -/

/-- The rest after a comment whose opening is read. It does not hold `--`, nor end in `-`. -/
def comment? (cs : List Char) : Option (List Char) := do
  let (text, rest) ← until? "-->" cs
  if holds ['-', '-'] text || text.getLast? = some '-' then none else return rest

/-- The rest after an instruction, from its opening on. A declaration stands elsewhere only. -/
def instruction? (cs : List Char) : Option (List Char) := do
  if (after? "<?xml " cs).isSome then none
  let (_, rest) ← word? (← after? "<?" cs)
  return (← until? "?>" (skipSpace rest)).2

/-! ### Tags -/

def quoted? (banned : Char → Bool) : List Char → Option (List Char × List Char)
  | [] => none
  | quote :: cs =>
    if quote = '"' || quote = '\x27' then
      match cs.dropWhile fun c => c ≠ quote && !banned c with
      | c :: rest =>
        if c = quote then some (cs.takeWhile fun c => c ≠ quote && !banned c, rest) else none
      | [] => none
    else none

def attribute? (cs : List Char) : Option ((Name × List Char) × List Char) := do
  let (name, rest) ← name? cs
  let rest ← after? "=" (skipSpace rest)
  let (value, rest) ← quoted? (fun c => c = '<' || !isChar c) (skipSpace rest)
  return ((name, value), rest)

def attributesFrom : Nat → List Char → Option (List (Name × List Char) × Ending × List Char)
  | 0, _ => none
  | _, [] => some ([], .cut, [])
  | fuel + 1, cs =>
    match skipSpace cs with
    | '>' :: rest => some ([], .opened, rest)
    | '/' :: rest => (after? ">" rest).map fun rest => ([], .empty, rest)
    | here =>
      if (cs.takeWhile isSpace).isEmpty then none
      else do
        let (a, rest) ← attribute? here
        let (more, ending, rest) ← attributesFrom fuel rest
        return (a :: more, ending, rest)

def tagFrom (fuel : Nat) (cs : List Char) : Option (Token × List Char) := do
  let (name, rest) ← name? cs
  let (attrs, ending, rest) ← attributesFrom (fuel + 1) rest
  return (.start name attrs ending, rest)

/-! ### Content -/

def nextFrom (fuel : Nat) (cs : List Char) : Option (Token × List Char) :=
  match cs with
  | '<' :: '!' :: rest =>
    match after? "--" rest with
    | some rest => (comment? rest).map fun rest => (.remark, rest)
    | none => do
      let (text, rest) ← until? "]]>" (← after? "[CDATA[" rest)
      return (.data text, rest)
  | '<' :: '?' :: _ => (instruction? cs).map fun rest => (.remark, rest)
  | '<' :: '/' :: rest => do
    let (name, rest) ← name? rest
    return (.stop name, ← after? ">" (skipSpace rest))
  | '<' :: rest => tagFrom fuel rest
  | cs =>
    let text := cs.takeWhile (· ≠ '<')
    if text.all isChar && !holds "]]>".toList text then
      some (.text text, cs.dropWhile (· ≠ '<'))
    else none

/-- The tokens up to the end, or up to the tag that closes what is open at the start. Of what is
opened after that, so many elements are still open. -/
def contentFrom : Nat → Nat → List Char → Option (List Token × List Char)
  | _, _, [] => some ([], [])
  | 0, _, _ => none
  | fuel + 1, depth, cs => do
    let (token, rest) ← nextFrom fuel cs
    match token, depth with
    | .stop _, 0 => return ([token], rest)
    | .stop _, depth + 1 => return (← contentFrom fuel depth rest).map (token :: ·) id
    | .start _ _ .opened, depth => return (← contentFrom fuel (depth + 1) rest).map (token :: ·) id
    | _, depth => return (← contentFrom fuel depth rest).map (token :: ·) id

def content? (cs : List Char) : Option (List Token × List Char) := contentFrom cs.length 0 cs

end CodeAtlas.Xml
