import CodeAtlas.Failure
import CodeAtlas.Json.Reader
import CodeAtlas.Net.Status
import CodeAtlas.Service.Call

/-!
What the backend's replies mean. A reply that is not a success, and a success with an `error` in it,
are failures of the backend.
-/
namespace CodeAtlas

structure Reply where
  status : Nat := 200
  contentType : Option String := none
  body : Text.Bytes := []
  deriving DecidableEq, Repr

namespace Reply

def content (r : Reply) : Json :=
  let text := Text.decodeLossy r.body
  (Json.parse? text).getD (.str text)

/-- The words of a reply about a failure: those of `error`, or of `detail` if there is none. -/
def complaint? (j : Json) : Option String :=
  match j.field? "error" <|> j.field? "detail" with
  | none | some .null => none
  | some (.str s) => some s
  | some other => some other.compact

def value (r : Reply) : Except Failure Json :=
  let j := r.content
  if !Net.isSuccess r.status then
    .error (.backend ((complaint? j).getD (Net.statusText r.status)))
  else match j.field? "error" with
    | none | some .null => .ok j
    | some _ => .error (.backend ((complaint? j).getD ""))

def shaped {α : Type} (read : Json → Except Json.Mismatch α) (j : Json) : Except Failure α :=
  match read j with
  | .ok a => .ok a
  | .error why => .error (.protocol why.message)

/-- The list under a key of an object, empty if it is not there; anything else is the list
itself. -/
def listUnder (key : String) : Json → Json
  | .obj fields => (Dict.find? key fields).getD (.arr [])
  | j => j

def graph (r : Reply) : Except Failure Payload := do shaped Payload.ofJson (← r.value)

def cleared (r : Reply) : Except Failure Bool := do
  return (((← r.value).field? "success").bind Json.bool?).getD false

def asPaths : Json → Except Json.Mismatch (List (List String)) :=
  Json.asListOf (Json.asListOf Json.asText)

def paths (r : Reply) : Except Failure (List (List String)) := do
  shaped asPaths (listUnder "paths" (← r.value))

def nodes (r : Reply) : Except Failure (List Node) := do
  shaped (Json.asListOf Node.ofJson) (listUnder "nodes" (← r.value))

def plainType (r : Reply) : Option String :=
  r.contentType.filter fun s => s.toList.all fun c => c == '\t' || (0x20 ≤ c.toNat && c.toNat < 0x7F)

def lacksArtifact (r : Reply) (format : ExportFormat) : Bool :=
  !Net.isSuccess r.status ||
    (format ≠ .json && r.plainType.any (·.startsWith "application/json"))

def artifact (format : ExportFormat) (r : Reply) : Except Failure Artifact :=
  if r.lacksArtifact format then do
    let _ ← r.value
    .error (.backend s!"export returned no {format.name} artifact")
  else .ok ⟨r.plainType, r.body⟩

end Reply

inductive Completion where
  | graph (request : GraphRequest) (result : Except Failure Payload)
  | cleared (result : Except Failure Bool)
  | stats (result : Except Failure Json)
  | details (id : String) (result : Except Failure Json)
  | paths (result : Except Failure (List (List String)))
  | search (query : String) (result : Except Failure (List Node))
  | artifact (format : ExportFormat) (result : Except Failure Artifact)

namespace Call

def complete (c : Call) (reply : Except Failure Reply) : Completion :=
  match c with
  | .graph .clear => .cleared (do (← reply).cleared)
  | .graph request => .graph request (do (← reply).graph)
  | .stats => .stats (do (← reply).value)
  | .paths .. => .paths (do (← reply).paths)
  | .search query _ => .search query (do (← reply).nodes)
  | .details id => .details id (do (← reply).value)
  | .artifact format => .artifact format (do (← reply).artifact format)

def completeWith (c : Call) (value : Except Failure Json) : Completion :=
  let typed {α : Type} (read : Json → Except Json.Mismatch α) : Except Failure α := do
    Reply.shaped read (← value)
  match c with
  | .graph .clear => .cleared (typed Json.asBool)
  | .graph request => .graph request (typed Payload.ofJson)
  | .stats => .stats value
  | .paths .. => .paths (typed Reply.asPaths)
  | .search query _ => .search query (typed (Json.asListOf Node.ofJson))
  | .details id => .details id value
  | .artifact format => .artifact format (value.map Artifact.ofJson)

end Call

end CodeAtlas
