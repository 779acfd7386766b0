import CodeAtlas.Graph.Store
import CodeAtlas.Graph.Wire
import CodeAtlas.Json.Printer
import CodeAtlas.Json.Reader

/-!
Messages of the push channel: JSON envelopes with a type and data. The shape of an envelope is
checked while it is read, so that of several problems the first one counts. Types that are not
known are no error.
-/
namespace CodeAtlas

inductive PushEvent where
  /-- The graph changed as a whole and has to be fetched again. -/
  | graphUpdated
  | delta (d : Delta)
  /-- Understood, but of no concern to the graph. -/
  | ignored (kind : String)

structure Envelope where
  kind : String
  data : Json

namespace Envelope

open Json (Fault Mismatch skipSpace nextItem readText readColon readValue readWord readNumber)

def liftFault {α : Type} : Except Fault α → Except Unreadable α
  | .ok a => .ok a
  | .error .ended => .error .ended
  | .error .malformed => .error .malformed

/-- What stands where something else was expected. A word, number or text is read to its end
first, and may turn out malformed; a list or object is not entered. -/
def unexpected {α : Type} (expected : String) (cs : List Char) : Except Unreadable α :=
  match skipSpace cs with
  | [] => .error .ended
  | '[' :: _ => .error (.misshapen (.wrongType "sequence" expected))
  | '\x7b' :: _ => .error (.misshapen (.wrongType "map" expected))
  | start => do
    let (j, _) ← liftFault (readValue .keep 1 start)
    .error (.misshapen (.wrongType j.describe expected))

def readKind (cs : List Char) : Except Unreadable (String × List Char) :=
  match skipSpace cs with
  | '"' :: rest => liftFault (readText .keep rest)
  | rest => unexpected "a string" rest

def dataRoom : Nat := Json.documentRoom - 1

/-- The fields of an envelope, some of which have been read. A field that is not known is skipped;
the text bounds the steps. -/
def fieldsFrom : Nat → Bool → Option String → Option Json → List Char →
    Except Unreadable (Envelope × List Char)
  | 0, _, _, _, _ => .error .ended
  | fuel + 1, first, kind, data, cs => do
    match ← liftFault (nextItem '\x7d' first cs) with
    | (none, rest) =>
      match kind with
      | some kind => return (⟨kind, data.getD .null⟩, rest)
      | none => .error (.misshapen (.missing "type"))
    | (some ('"' :: rest), _) =>
      let (name, rest) ← liftFault (readText .keep rest)
      if name = "type" then
        if kind.isSome then .error (.misshapen (.repeated "type"))
        else
          let (_, rest) ← liftFault (readColon rest)
          let (value, rest) ← readKind rest
          fieldsFrom fuel false (some value) data rest
      else if name = "data" then
        if data.isSome then .error (.misshapen (.repeated "data"))
        else
          let (_, rest) ← liftFault (readColon rest)
          let (value, rest) ← liftFault (readValue .keep dataRoom rest)
          fieldsFrom fuel false kind (some value) rest
      else
        let (_, rest) ← liftFault (readColon rest)
        let (_, rest) ← liftFault (readValue .skip 0 rest)
        fieldsFrom fuel false kind data rest
    | (some _, _) => .error .malformed

def closeList (cs : List Char) : Except Unreadable (List Char) :=
  match skipSpace cs with
  | [] => .error .ended
  | ']' :: rest => .ok rest
  | _ => .error .malformed

def itemsFrom (cs : List Char) : Except Unreadable (Envelope × List Char) := do
  match ← liftFault (nextItem ']' true cs) with
  | (none, _) => .error (.misshapen (.tooShort 0 "Envelope" 2))
  | (some start, _) =>
    let (kind, rest) ← readKind start
    match ← liftFault (nextItem ']' false rest) with
    | (none, rest) => return (⟨kind, .null⟩, rest)
    | (some start, _) =>
      let (data, rest) ← liftFault (readValue .keep dataRoom start)
      let rest ← closeList rest
      return (⟨kind, data⟩, rest)

def parse (text : String) : Except Unreadable Envelope := do
  let (envelope, rest) ← match skipSpace text.toList with
    | '[' :: rest => itemsFrom rest
    | '\x7b' :: rest => fieldsFrom (rest.length + 1) true none none rest
    | rest => unexpected "struct Envelope" rest
  liftFault (Json.atEnd rest)
  return envelope

end Envelope

namespace PushEvent

open Json (Mismatch asText)

def removedNames : List String := ["id", "nodeId", "node_id"]

/-- The identity of the node that was removed. It may be given under one name only. -/
def removedId : Json → Except Mismatch String
  | .obj fields =>
    match fields.filter fun f => removedNames.contains f.1 with
    | [] => .error (.missing "nodeId")
    | (_, j) :: rest => do
      let id ← asText j
      if rest.isEmpty then return id else .error (.repeated "nodeId")
  | .arr items => do
    let id ← Json.itemAt items 0 "NodeRemovedData" 1 asText
    Json.noMore items 1
    return id
  | j => Json.mismatch j "struct NodeRemovedData"

def checked {α : Type} (kind : String) : Except Mismatch α → Except Failure α
  | .ok a => .ok a
  | .error why => .error (.protocol s!"malformed `{kind}` payload: {why.message}")

def ofEnvelope (e : Envelope) : Except Failure PushEvent :=
  match e.kind with
  | "graph_updated" => .ok .graphUpdated
  | "node_added" => (checked e.kind (Node.ofJson e.data)).map fun n => .delta (.nodeAdded n)
  | "node_removed" => (checked e.kind (removedId e.data)).map fun id => .delta (.nodeRemoved id)
  | "link_added" => (checked e.kind (Link.ofJson e.data)).map fun l => .delta (.linkAdded l)
  | "link_removed" => (checked e.kind (Link.ofJson e.data)).map fun l => .delta (.linkRemoved l)
  | kind => .ok (.ignored kind)

def parse (text : String) : Except Failure PushEvent :=
  match Envelope.parse text with
  | .error why => .error (.json why)
  | .ok e => ofEnvelope e

end PushEvent

def subscribeMessage : String :=
  (Json.object [("type", .str "subscribe"), ("topic", .str "graph")]).compact

def pingMessage : String := (Json.object [("type", .str "ping")]).compact

end CodeAtlas
