import CodeAtlas.Xml.Node

/-!
XML documents: a declaration, the document type with its entities, one element, and remarks between
them.
-/
namespace CodeAtlas.Xml

def skipRemarksFrom : Nat → List Char → Option (List Char)
  | 0, cs => some cs
  | fuel + 1, cs =>
    let cs := skipSpace cs
    match after? "<!--" cs with
    | some rest => do skipRemarksFrom fuel (← comment? rest)
    | none =>
      if (after? "<?" cs).isSome then do skipRemarksFrom fuel (← instruction? cs) else some cs

def skipRemarks (cs : List Char) : Option (List Char) := skipRemarksFrom (cs.length + 1) cs

/-! ### The declaration -/

def apart? (cs : List Char) : Option (List Char) :=
  match space? cs with
  | some rest => some rest
  | none => if cs.isEmpty || (after? "?>" cs).isSome then some cs else none

def declared? (name : String) (cs : List Char) : Option (List Char) :=
  if (after? name cs).isSome then (attribute? cs).map (·.2) else none

/-- The rest after the declaration, if there is one. It has a version, and perhaps an encoding and
a word on whether it stands alone. -/
def skipDeclaration (cs : List Char) : Option (List Char) :=
  match after? "<?xml " cs with
  | none => some cs
  | some rest => do
    let cs ← apart? (← declared? "version" (skipSpace rest))
    let cs ← if (after? "encoding" cs).isSome then do apart? (← declared? "encoding" cs) else some cs
    let cs ← if (after? "standalone" cs).isSome then declared? "standalone" cs else some cs
    after? "?>" (skipSpace cs)

/-! ### The document type -/

def quotedText? (cs : List Char) : Option (List Char × List Char) := quoted? (fun _ => false) cs

def external? (cs : List Char) : Option (List Char) :=
  match after? "SYSTEM" cs, after? "PUBLIC" cs with
  | some rest, _ => do return (← quotedText? (← space? rest)).2
  | none, some rest => do
    let (_, rest) ← quotedText? (← space? rest)
    return (← quotedText? (← space? rest)).2
  | none, none => none

def namesExternal (cs : List Char) : Bool :=
  (after? "SYSTEM" cs).isSome || (after? "PUBLIC" cs).isSome

/-- What an entity stands for, nothing if its text is kept elsewhere. Only an entity for the content
of elements can be of a notation. -/
def definition? (general : Bool) (cs : List Char) : Option (Option (List Char) × List Char) :=
  if namesExternal cs then do
    let rest ← external? cs
    match general, after? "NDATA" (skipSpace rest) with
    | true, some rest => return (none, (← word? (← space? rest)).2)
    | _, _ => return (none, rest)
  else (quotedText? cs).map fun (text, rest) => (some text, rest)

def entity? (cs : List Char) : Option (Entities × List Char) := do
  let cs ← space? cs
  let (general, cs) ← match cs with
    | '%' :: rest => (space? rest).map fun rest => (false, rest)
    | cs => some (true, cs)
  let (name, cs) ← word? cs
  let (text, cs) ← definition? general (← space? cs)
  return (text.toList.map fun text => (name, text), ← after? ">" (skipSpace cs))

def entitiesFrom : Nat → List Char → Option (Entities × List Char)
  | 0, _ => none
  | fuel + 1, cs =>
    let cs := skipSpace cs
    match after? "<!ENTITY" cs, after? "<!--" cs, after? "<?" cs, after? "]" cs with
    | some rest, _, _, _ => do
      let (here, rest) ← entity? rest
      return (← entitiesFrom fuel rest).map (here ++ ·) id
    | _, some rest, _, _ => do entitiesFrom fuel (← comment? rest)
    | _, _, some _, _ => do entitiesFrom fuel (← instruction? cs)
    | _, _, _, some rest => do return ([], ← after? ">" (skipSpace rest))
    | none, none, none, none =>
      if ["<!ELEMENT", "<!ATTLIST", "<!NOTATION"].any fun d => (after? d cs).isSome then do
        entitiesFrom fuel (← divide? ['>'] cs).2
      else none

def documentType? (cs : List Char) : Option (Entities × List Char) := do
  let (_, cs) ← word? (← space? cs)
  let cs := skipSpace cs
  let cs ← if namesExternal cs then external? cs else some cs
  match skipSpace cs with
  | '>' :: rest => return ([], rest)
  | '[' :: rest => entitiesFrom (rest.length + 1) rest
  | _ => none

/-! ### Documents -/

def element? (cs : List Char) : Option (List Token × List Char) := do
  let (token, rest) ← tagFrom cs.length (← after? "<" cs)
  match token with
  | .start _ _ .opened => return (← content? rest).map (token :: ·) id
  | _ => return ([token], rest)

def source? (cs : List Char) : Option (Entities × List Token) := do
  let cs := if cs.head? = some '\uFEFF' then cs.tail else cs
  let cs ← skipRemarks (← skipDeclaration cs)
  let (es, cs) ← match after? "<!DOCTYPE" cs with
    | some rest => do
      let (es, rest) ← documentType? rest
      pure (es, ← skipRemarks rest)
    | none => pure ([], cs)
  let (tokens, rest) ← element? cs
  if (← skipRemarks rest).isEmpty then return (es, tokens) else none

def document? (s : String) : Option (List Node) := do
  let (es, tokens) ← source? s.toList
  (nodes? es tokens).filter (·.any Node.isElement)

end CodeAtlas.Xml
