import CodeAtlas.Graph.Document
import CodeAtlas.Proofs.DeltaRuns
import CodeAtlas.Proofs.JsonMembers
import CodeAtlas.Push.Event

/-!
A graph written as a JSON value and read again. Not every node or link comes back as it was: a known
tag kept as an unknown one would be recognised, and a field `id` among the other fields of an
embedded node would be lost. What was read from a JSON value is free of both, and so is every graph
made of it; such a graph comes back whole.
-/
namespace CodeAtlas

/-! ### Reading what was written, and what reading gives -/

theorem map_eq_ok {ε α β : Type} {f : α → β} {result : Except ε α} {b : β}
    (mapped : result.map f = .ok b) : ∃ a, result = .ok a ∧ f a = b := by
  cases result with
  | error why => cases mapped
  | ok a =>
    cases mapped
    exact ⟨a, rfl, rfl⟩

namespace Json

variable {α : Type}

theorem required_eq_ok {name : String} {found : Option α} {a : α}
    (read : required name found = .ok a) : found = some a := by
  cases found with
  | none => cases read
  | some b =>
    cases read
    rfl

theorem optional_eq_some {fields : Dict Json} {name : String} {item : Json → Except Mismatch α}
    {a : α} (read : optional fields name item = .ok (some a)) : ∃ j, item j = .ok a := by
  unfold optional at read
  split at read
  · cases read
  · rename_i j _
    obtain ⟨b, itemRead, same⟩ := map_eq_ok read
    cases same
    exact ⟨j, itemRead⟩

theorem itemAt_eq_ok {items : List Json} {place : Nat} {record : String} {size : Nat}
    {item : Json → Except Mismatch α} {a : α} (read : itemAt items place record size item = .ok a) :
    ∃ j, item j = .ok a := by
  unfold itemAt at read
  split at read
  · rename_i j _
    exact ⟨j, read⟩
  · cases read

theorem asListOf_forall {item : Json → Except Mismatch α} {holds : α → Prop}
    (each : ∀ j a, item j = .ok a → holds a) {j : Json} {as : List α}
    (read : asListOf item j = .ok as) : ∀ a ∈ as, holds a := by
  cases j with
  | arr items =>
    change items.mapM item = .ok as at read
    induction items generalizing as with
    | nil =>
      cases read
      intro a member
      cases member
    | cons j rest ih =>
      rw [List.mapM_cons] at read
      obtain ⟨first, firstRead, read⟩ := bind_eq_ok.mp read
      obtain ⟨others, othersRead, read⟩ := bind_eq_ok.mp read
      cases read
      intro a member
      rcases List.mem_cons.mp member with rfl | later
      · exact each j a firstRead
      · exact ih othersRead a later
  | null | bool | num | str | obj => cases read

theorem optional_forall {item : Json → Except Mismatch α} {holds : α → Prop}
    (each : ∀ j a, item j = .ok a → holds a) {fields : Dict Json} {name : String}
    {found : Option (List α)} (read : optional fields name (asListOf item) = .ok found) :
    ∀ a ∈ found.getD [], holds a := by
  cases found with
  | none =>
    intro a member
    cases member
  | some as =>
    obtain ⟨j, listRead⟩ := optional_eq_some read
    exact asListOf_forall each listRead

theorem asListOf_written {item : Json → Except Mismatch α} {write : α → Json} {as : List α}
    (back : ∀ a ∈ as, item (write a) = .ok a) : asListOf item (.arr (as.map write)) = .ok as := by
  change (as.map write).mapM item = .ok as
  induction as with
  | nil => rfl
  | cons a rest ih =>
    have first := back a List.mem_cons_self
    have others := ih fun b member => back b (List.mem_cons_of_mem a member)
    rw [List.map_cons, List.mapM_cons, first]
    exact bind_eq_ok.mpr ⟨a, rfl, bind_eq_ok.mpr ⟨rest, others, rfl⟩⟩

end Json

open Json (optional_eq_some required_eq_ok itemAt_eq_ok)

namespace NodeKind

/-- A kind as its tag gives it. -/
def Canonical (k : NodeKind) : Prop := ofTag k.tag = k

theorem tag_ofTag (t : String) : (ofTag t).tag = t := by
  unfold ofTag
  split
  · rename_i kind found
    simpa using List.find?_some found
  · rfl

theorem ofJson_canonical {j : Json} {k : NodeKind} (read : ofJson j = .ok k) : k.Canonical := by
  cases j with
  | str t =>
    cases read
    rw [Canonical, tag_ofTag]
  | null | bool | num | arr | obj => cases read

theorem Canonical.back {k : NodeKind} (canonical : k.Canonical) : ofJson k.toJson = .ok k :=
  congrArg Except.ok canonical

end NodeKind

namespace LinkKind

def Canonical (k : LinkKind) : Prop := ofTag k.tag = k

theorem tag_ofTag (t : String) : (ofTag t).tag = t := by
  unfold ofTag
  split
  · rename_i kind found
    simpa using List.find?_some found
  · rfl

theorem ofJson_canonical {j : Json} {k : LinkKind} (read : ofJson j = .ok k) : k.Canonical := by
  cases j with
  | str t =>
    cases read
    rw [Canonical, tag_ofTag]
  | null | bool | num | arr | obj => cases read

theorem Canonical.back {k : LinkKind} (canonical : k.Canonical) : ofJson k.toJson = .ok k :=
  congrArg Except.ok canonical

end LinkKind

namespace Node

theorem ofJson_kind {j : Json} {n : Node} (read : ofJson j = .ok n) : n.kind.Canonical := by
  cases j with
  | obj fields =>
    obtain ⟨_, _, read⟩ := bind_eq_ok.mp read
    obtain ⟨_, _, read⟩ := bind_eq_ok.mp read
    obtain ⟨_, kindRead, read⟩ := bind_eq_ok.mp read
    obtain ⟨_, _, read⟩ := bind_eq_ok.mp read
    obtain ⟨kind, kindThere, read⟩ := bind_eq_ok.mp read
    cases read
    rw [required_eq_ok kindThere] at kindRead
    obtain ⟨j, decoded⟩ := optional_eq_some kindRead
    exact NodeKind.ofJson_canonical decoded
  | arr items =>
    obtain ⟨_, _, read⟩ := bind_eq_ok.mp read
    obtain ⟨kind, kindRead, read⟩ := bind_eq_ok.mp read
    obtain ⟨j, decoded⟩ := itemAt_eq_ok kindRead
    have canonical := NodeKind.ofJson_canonical decoded
    -- with its properties or without them
    dsimp only at read
    split at read
    all_goals
      obtain ⟨_, _, read⟩ := bind_eq_ok.mp read
      obtain ⟨_, _, read⟩ := bind_eq_ok.mp read
      cases read
      exact canonical
  | null | bool | num | str => cases read

theorem ofJson_fields {n : Node} (canonical : n.kind.Canonical) {fields : Dict Json}
    (id : fields.find? "id" = some (.str n.id))
    (properties : fields.find? "properties" = some (.obj n.properties))
    (kind : fields.find? "type" = some n.kind.toJson) : ofJson (.obj fields) = .ok n := by
  have kindRead := canonical.back
  simp only [ofJson, Json.optional, id, properties, kind, kindRead]
  rfl

theorem back {n : Node} (canonical : n.kind.Canonical) : ofJson n.toJson = .ok n :=
  ofJson_fields canonical rfl rfl rfl

theorem back_kept {n : Node} (canonical : n.kind.Canonical) : ofJson (Document.ofNode n) = .ok n :=
  ofJson_fields canonical rfl rfl rfl

end Node

namespace Endpoint

def Canonical : Endpoint → Prop
  | .bare _ => True
  | .embedded _ rest => "id" ∉ rest.keys

theorem ofJson_canonical {j : Json} {e : Endpoint} (read : ofJson j = .ok e) : e.Canonical := by
  unfold ofJson at read
  split at read
  · cases read
    trivial
  · split at read
    · cases read
      intro member
      exact (Dict.mem_keys_erase.mp member).1 rfl
    · cases read
  · cases read

theorem Canonical.back {e : Endpoint} (canonical : e.Canonical) : ofJson e.toJson = .ok e := by
  cases e with
  | bare id => rfl
  | embedded id rest =>
    have found : Dict.find? "id" (Dict.insert "id" (.str id) rest) = some (.str id) := by
      rw [Dict.find_insert, if_pos rfl]
    simp only [toJson, ofJson, found, Dict.erase_insert canonical]

theorem Canonical.back_kept {e : Endpoint} (canonical : e.Canonical) :
    ofJson (Document.ofEndpoint e) = .ok e := by
  cases e with
  | bare id => rfl
  | embedded id rest =>
    have others : Dict.erase "id" (("id", Json.str id) :: rest) = rest := by
      have kept := Dict.erase_of_absent canonical
      unfold Dict.erase at kept ⊢
      rw [List.filter_cons_of_neg (by simp), kept]
    simp only [Document.ofEndpoint, ofJson, Dict.find?, ↓reduceIte, others]

end Endpoint

namespace Link

structure Canonical (l : Link) : Prop where
  source : l.source.Canonical
  target : l.target.Canonical
  kind : l.kind.Canonical

theorem ofJson_canonical {j : Json} {l : Link} (read : ofJson j = .ok l) : l.Canonical := by
  cases j with
  | obj fields =>
    obtain ⟨_, sourceRead, read⟩ := bind_eq_ok.mp read
    obtain ⟨_, targetRead, read⟩ := bind_eq_ok.mp read
    obtain ⟨_, kindRead, read⟩ := bind_eq_ok.mp read
    obtain ⟨source, sourceThere, read⟩ := bind_eq_ok.mp read
    obtain ⟨target, targetThere, read⟩ := bind_eq_ok.mp read
    obtain ⟨kind, kindThere, read⟩ := bind_eq_ok.mp read
    cases read
    rw [required_eq_ok sourceThere] at sourceRead
    rw [required_eq_ok targetThere] at targetRead
    rw [required_eq_ok kindThere] at kindRead
    obtain ⟨_, sourceDecoded⟩ := optional_eq_some sourceRead
    obtain ⟨_, targetDecoded⟩ := optional_eq_some targetRead
    obtain ⟨_, kindDecoded⟩ := optional_eq_some kindRead
    exact ⟨Endpoint.ofJson_canonical sourceDecoded, Endpoint.ofJson_canonical targetDecoded,
      LinkKind.ofJson_canonical kindDecoded⟩
  | arr items =>
    obtain ⟨source, sourceRead, read⟩ := bind_eq_ok.mp read
    obtain ⟨target, targetRead, read⟩ := bind_eq_ok.mp read
    obtain ⟨kind, kindRead, read⟩ := bind_eq_ok.mp read
    obtain ⟨_, _, read⟩ := bind_eq_ok.mp read
    cases read
    obtain ⟨_, sourceDecoded⟩ := itemAt_eq_ok sourceRead
    obtain ⟨_, targetDecoded⟩ := itemAt_eq_ok targetRead
    obtain ⟨_, kindDecoded⟩ := itemAt_eq_ok kindRead
    exact ⟨Endpoint.ofJson_canonical sourceDecoded, Endpoint.ofJson_canonical targetDecoded,
      LinkKind.ofJson_canonical kindDecoded⟩
  | null | bool | num | str => cases read

theorem ofJson_fields {l : Link} (canonical : l.Canonical) {source target : Json}
    (sourceBack : Endpoint.ofJson source = .ok l.source)
    (targetBack : Endpoint.ofJson target = .ok l.target) :
    ofJson (.obj [("source", source), ("target", target), ("type", l.kind.toJson)]) = .ok l := by
  have kindBack := canonical.kind.back
  simp only [ofJson, Json.optional, Dict.find?, String.reduceEq, ↓reduceIte, sourceBack, targetBack,
    kindBack]
  rfl

theorem Canonical.back {l : Link} (canonical : l.Canonical) : ofJson l.toJson = .ok l :=
  ofJson_fields canonical canonical.source.back canonical.target.back

theorem Canonical.back_kept {l : Link} (canonical : l.Canonical) :
    ofJson (Document.ofLink l) = .ok l :=
  ofJson_fields canonical canonical.source.back_kept canonical.target.back_kept

end Link

namespace Payload

structure Canonical (p : Payload) : Prop where
  nodes : ∀ n ∈ p.nodes, n.kind.Canonical
  links : ∀ l ∈ p.links, l.Canonical

theorem ofJson_canonical {j : Json} {p : Payload} (read : ofJson j = .ok p) : p.Canonical := by
  have node (j : Json) (n : Node) : Node.ofJson j = .ok n → n.kind.Canonical := Node.ofJson_kind
  have link (j : Json) (l : Link) : Link.ofJson j = .ok l → l.Canonical := Link.ofJson_canonical
  cases j with
  | obj fields =>
    obtain ⟨links, linksRead, read⟩ := bind_eq_ok.mp read
    obtain ⟨nodes, nodesRead, read⟩ := bind_eq_ok.mp read
    cases read
    exact ⟨Json.optional_forall node nodesRead, Json.optional_forall link linksRead⟩
  | arr items =>
    match items with
    | [] =>
      cases read
      exact ⟨by simp, by simp⟩
    | [_] =>
      obtain ⟨nodes, nodesRead, read⟩ := bind_eq_ok.mp read
      cases read
      exact ⟨Json.asListOf_forall node nodesRead, by simp⟩
    | _ :: _ :: _ =>
      obtain ⟨nodes, nodesRead, read⟩ := bind_eq_ok.mp read
      obtain ⟨links, linksRead, read⟩ := bind_eq_ok.mp read
      obtain ⟨_, _, read⟩ := bind_eq_ok.mp read
      cases read
      exact ⟨Json.asListOf_forall node nodesRead, Json.asListOf_forall link linksRead⟩
  | null | bool | num | str => cases read

theorem ofJson_fields {p : Payload} (canonical : p.Canonical) {writeNode : Node → Json}
    {writeLink : Link → Json} (nodeBack : ∀ n, n.kind.Canonical → Node.ofJson (writeNode n) = .ok n)
    (linkBack : ∀ l, l.Canonical → Link.ofJson (writeLink l) = .ok l) {fields : Dict Json}
    (nodes : fields.find? "nodes" = some (.arr (p.nodes.map writeNode)))
    (links : fields.find? "links" = some (.arr (p.links.map writeLink))) :
    ofJson (.obj fields) = .ok p := by
  have nodesRead := Json.asListOf_written fun n member => nodeBack n (canonical.nodes n member)
  have linksRead := Json.asListOf_written fun l member => linkBack l (canonical.links l member)
  simp only [ofJson, Json.optional, nodes, links, nodesRead, linksRead]
  rfl

theorem Canonical.back {p : Payload} (canonical : p.Canonical) : ofJson p.toJson = .ok p :=
  ofJson_fields canonical (fun _ => Node.back) (fun _ => Link.Canonical.back) rfl rfl

theorem Canonical.back_kept {p : Payload} (canonical : p.Canonical) :
    ofJson (Document.ofPayload p) = .ok p :=
  ofJson_fields canonical (fun _ => Node.back_kept) (fun _ => Link.Canonical.back_kept) rfl rfl

end Payload

/-! ### Deltas and the envelopes that bring them -/

namespace Delta

def Canonical : Delta → Prop
  | .nodeAdded n => n.kind.Canonical
  | .nodeRemoved _ => True
  | .linkAdded l | .linkRemoved l => l.Canonical

def data : Delta → Json
  | .nodeAdded n => n.toJson
  | .nodeRemoved id => .obj [("nodeId", .str id)]
  | .linkAdded l | .linkRemoved l => l.toJson

def envelope (d : Delta) : Envelope := ⟨d.name, d.data⟩

def Decoded : Delta → Prop
  | .nodeAdded n => ∃ j, Node.ofJson j = .ok n
  | .nodeRemoved _ => True
  | .linkAdded l | .linkRemoved l => ∃ j, Link.ofJson j = .ok l

theorem Decoded.canonical {d : Delta} (decoded : d.Decoded) : d.Canonical := by
  cases d with
  | nodeAdded n =>
    obtain ⟨j, read⟩ := decoded
    exact Node.ofJson_kind read
  | nodeRemoved id => trivial
  | linkAdded l | linkRemoved l =>
    obtain ⟨j, read⟩ := decoded
    exact Link.ofJson_canonical read

theorem Canonical.back {d : Delta} (canonical : d.Canonical) :
    PushEvent.ofEnvelope d.envelope = .ok (.delta d) := by
  cases d with
  | nodeAdded n =>
    have back : Node.ofJson n.toJson = .ok n := Node.back canonical
    simp only [envelope, name, data, PushEvent.ofEnvelope, back]
    rfl
  | nodeRemoved id => rfl
  | linkAdded l | linkRemoved l =>
    have back : Link.ofJson l.toJson = .ok l := Link.Canonical.back canonical
    simp only [envelope, name, data, PushEvent.ofEnvelope, back]
    rfl

end Delta

namespace PushEvent

theorem checked_eq_ok {α : Type} {kind : String} {result : Except Json.Mismatch α} {a : α}
    (passed : checked kind result = .ok a) : result = .ok a := by
  cases result with
  | error why => cases passed
  | ok b =>
    cases passed
    rfl

theorem ofEnvelope_decoded {e : Envelope} {d : Delta} (read : ofEnvelope e = .ok (.delta d)) :
    d.Decoded := by
  unfold ofEnvelope at read
  split at read
  · cases read
  · obtain ⟨n, passed, made⟩ := map_eq_ok read
    cases made
    exact ⟨_, checked_eq_ok passed⟩
  · obtain ⟨id, _, made⟩ := map_eq_ok read
    cases made
    trivial
  · obtain ⟨l, passed, made⟩ := map_eq_ok read
    cases made
    exact ⟨_, checked_eq_ok passed⟩
  · obtain ⟨l, passed, made⟩ := map_eq_ok read
    cases made
    exact ⟨_, checked_eq_ok passed⟩
  · cases read

end PushEvent

/-! ### Graphs -/

namespace Snapshot

structure Canonical (g : Snapshot) : Prop where
  nodes : ∀ e ∈ g.nodes, e.2.kind.Canonical
  links : ∀ l ∈ g.links, l.Canonical

theorem empty_canonical : empty.Canonical where
  nodes := by intro e member; cases member
  links := by intro l member; cases member

theorem insertNode_canonical {g : Snapshot} (canonical : g.Canonical) {n : Node}
    (kind : n.kind.Canonical) : (g.insertNode n).Canonical := by
  unfold insertNode
  split
  · exact canonical
  · refine ⟨?_, canonical.links⟩
    intro e member
    rcases Dict.mem_insert member with new | old
    · rw [new]
      exact kind
    · exact canonical.nodes e old

theorem insertNodes_canonical {g : Snapshot} (canonical : g.Canonical) {nodes : List Node}
    (kinds : ∀ n ∈ nodes, n.kind.Canonical) :
    (nodes.foldl (fun g n => g.insertNode n) g).Canonical := by
  induction nodes generalizing g with
  | nil => exact canonical
  | cons n rest ih =>
    have next := insertNode_canonical canonical (kinds n List.mem_cons_self)
    exact ih next fun m member => kinds m (List.mem_cons_of_mem n member)

theorem ofPayload_canonical {p : Payload} (canonical : p.Canonical) : (ofPayload p).Canonical where
  nodes := (insertNodes_canonical empty_canonical canonical.nodes).nodes
  links := fun l member => canonical.links l (List.mem_filter.mp member).1

theorem toPayload_canonical {g : Snapshot} (canonical : g.Canonical) : g.toPayload.Canonical where
  nodes := by
    intro n member
    obtain ⟨e, there, eq⟩ := List.mem_map.mp member
    subst eq
    exact canonical.nodes e there
  links := canonical.links

end Snapshot

namespace Store

theorem apply_canonical {s : Store} (canonical : s.snapshot.Canonical) {d : Delta}
    (decoded : d.Canonical) : (s.apply d).1.snapshot.Canonical := by
  cases d with
  | nodeAdded n =>
    rw [apply_nodeAdded]
    split
    · exact canonical
    · exact Snapshot.insertNode_canonical canonical decoded
  | nodeRemoved id =>
    rw [apply_nodeRemoved]
    unfold Snapshot.eraseNode
    split
    · exact ⟨fun e member => canonical.nodes e (List.mem_filter.mp member).1,
        fun l member => canonical.links l (List.mem_filter.mp member).1⟩
    · exact canonical
  | linkAdded l =>
    rw [apply_linkAdded]
    split
    · refine ⟨canonical.nodes, ?_⟩
      intro m member
      rcases List.mem_append.mp member with old | new
      · exact canonical.links m old
      · rw [List.mem_singleton.mp new]
        exact decoded
    · exact canonical
  | linkRemoved l =>
    rw [apply_linkRemoved]
    exact ⟨canonical.nodes, fun m member => canonical.links m (List.mem_filter.mp member).1⟩

/-- What an operation puts into the store came from a JSON value: a document, or a push message. -/
def Operation.Decoded : Operation → Prop
  | .replace p => ∃ j, Payload.ofJson j = .ok p
  | .apply d => ∃ e, PushEvent.ofEnvelope e = .ok (.delta d)
  | .clear | .setLoading _ | .setError _ => True

theorem perform_canonical {s : Store} (canonical : s.snapshot.Canonical) {op : Operation}
    (decoded : op.Decoded) : (s.perform op).snapshot.Canonical := by
  cases op with
  | replace p =>
    obtain ⟨j, read⟩ := decoded
    exact Snapshot.ofPayload_canonical (Payload.ofJson_canonical read)
  | clear => exact Snapshot.empty_canonical
  | setLoading loading => exact canonical
  | setError error => exact canonical
  | apply d =>
    obtain ⟨e, read⟩ := decoded
    exact apply_canonical canonical (PushEvent.ofEnvelope_decoded read).canonical

theorem run_canonical {s : Store} (canonical : s.snapshot.Canonical) {ops : List Operation}
    (decoded : ∀ op ∈ ops, op.Decoded) : (s.run ops).snapshot.Canonical := by
  induction ops generalizing s with
  | nil => exact canonical
  | cons op rest ih =>
    have next := perform_canonical canonical (decoded op List.mem_cons_self)
    exact ih next fun later member => decoded later (List.mem_cons_of_mem op member)

/-- A graph that came from JSON values, however it was changed since: written as a value or as a
document to be kept and read again, it is the same graph, and no link is left out. A message made
of a node, a link or an identity that came from a JSON value tells of the same change, whichever
name it gives to the identity. -/
theorem written_graphs_and_messages_read_back (ops : List Operation)
    (decoded : ∀ op ∈ ops, op.Decoded) :
    let g := (run {} ops).snapshot
    (∃ p, Payload.ofJson g.toPayload.toJson = .ok p ∧
        Payload.ofJson (Document.ofPayload g.toPayload) = .ok p ∧
        Snapshot.ofPayload p = g ∧ Snapshot.droppedLinks p = 0) ∧
      (∀ d : Delta, d.Decoded → PushEvent.ofEnvelope d.envelope = .ok (.delta d) ∧
        ∀ text, Envelope.parse text = .ok d.envelope → PushEvent.parse text = .ok (.delta d)) ∧
      ∀ id, ∀ name ∈ PushEvent.removedNames,
        PushEvent.ofEnvelope ⟨"node_removed", .obj [(name, .str id)]⟩ =
          .ok (.delta (.nodeRemoved id)) := by
  intro g
  have canonical : g.Canonical := run_canonical Snapshot.empty_canonical decoded
  have wf : g.WellFormed := run_wellFormed Snapshot.empty_wellFormed ops
  have whole := Snapshot.toPayload_canonical canonical
  have same : Snapshot.ofPayload g.toPayload = g := Snapshot.ofPayload_toPayload wf
  refine ⟨⟨g.toPayload, whole.back, whole.back_kept, same, ?_⟩, ?_, ?_⟩
  · rw [Snapshot.droppedLinks, same]
    exact Nat.sub_self g.links.length
  · intro d came
    have back := came.canonical.back
    refine ⟨back, ?_⟩
    intro text read
    rw [PushEvent.parse, read]
    exact back
  · intro id name member
    simp only [PushEvent.removedNames, List.mem_cons, List.not_mem_nil, or_false] at member
    rcases member with rfl | rfl | rfl <;> rfl

/-- A document with an unknown kind, a node as a list and an embedded end, and a push message after
it: the graph of both is read back, and so is the message. -/
theorem unknown_kinds_and_embedded_ends_read_back :
    let a : Node := { id := "a", kind := .other "Module", properties := [("line", .ofNat 3)] }
    let b : Node := { id := "b", kind := .file }
    let l : Link := ⟨.embedded "a" [("x", .null)], .bare "b", .other "IMPORTS"⟩
    let j : Json := .obj
      [("links", .arr [.obj [("source", .obj [("id", .str "a"), ("x", .null)]), ("target", .str "b"),
        ("type", .str "IMPORTS")]]),
        ("nodes", .arr [.arr [.str "b", .str "File"], .obj [("id", .str "a"),
          ("properties", .obj [("line", .ofNat 3)]), ("type", .str "Module")]])]
    let ops : List Operation := [.replace ⟨[b, a], [l]⟩, .apply (.linkAdded l), .setLoading true]
    let g := (run {} ops).snapshot
    Payload.ofJson j = .ok ⟨[b, a], [l]⟩ ∧
      g.nodes.keys = ["a", "b"] ∧ g.links.map Link.key = [l.key, l.key] ∧
      (∃ p, Payload.ofJson g.toPayload.toJson = .ok p ∧ Snapshot.ofPayload p = g) ∧
      PushEvent.ofEnvelope (Delta.linkRemoved l).envelope = .ok (.delta (.linkRemoved l)) := by
  intro a b l j ops g
  have document : Payload.ofJson j = .ok ⟨[b, a], [l]⟩ := rfl
  have link : Link.ofJson l.toJson = .ok l := rfl
  have message : PushEvent.ofEnvelope ⟨"link_added", l.toJson⟩ = .ok (.delta (.linkAdded l)) := rfl
  have decoded : ∀ op ∈ ops, op.Decoded := by
    intro op member
    simp only [ops, List.mem_cons, List.not_mem_nil, or_false] at member
    rcases member with rfl | rfl | rfl
    · exact ⟨j, document⟩
    · exact ⟨_, message⟩
    · trivial
  obtain ⟨⟨p, back, _, same, _⟩, messages, _⟩ := written_graphs_and_messages_read_back ops decoded
  refine ⟨document, ?_, ?_, ⟨p, back, same⟩, (messages (.linkRemoved l) ⟨_, link⟩).1⟩
  · decide
  · decide

end Store

end CodeAtlas
