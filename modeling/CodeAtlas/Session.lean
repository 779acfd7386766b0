import CodeAtlas.Graph.Store
import CodeAtlas.Graph.View
import CodeAtlas.Push.Worker
import CodeAtlas.Service.Reply
import CodeAtlas.Settings

/-!
A viewing session: the graph, what is selected, and every request under way. The session is a
machine: user actions and arriving messages change it and make it ask for things, which the world
around it carries out.
-/
namespace CodeAtlas

structure Selection where
  selected : Option String := none
  hovered : Option String := none
  deriving DecidableEq, Repr

/-- What is hovered wins over what is selected. -/
def Selection.focus (s : Selection) : Option String := s.hovered <|> s.selected

structure NodeDetails where
  id : String
  value : Json

structure Session where
  limits : QueryLimits := {}
  store : Store := {}
  criteria : Criteria := {}
  selection : Selection := {}
  stats : Option Json := none
  details : Option NodeDetails := none
  paths : List (List String) := []
  found : List Node := []
  artifact : Option (ExportFormat × Artifact) := none
  /-- The request that failed last, for another try. -/
  failed : Option GraphRequest := none
  /-- Requests for a graph that are under way. -/
  inFlight : Nat := 0
  /-- The number of the push connection, counted from zero. -/
  connection : Option Nat := none
  /-- How many push connections were opened. -/
  opened : Nat := 0
  connectionState : ConnectionState := .disconnected
  tornDown : Bool := false

/-- What the session asks of the world. -/
inductive Errand where
  | call (c : Call)
  /-- Open a push connection with that number. -/
  | openPush (number : Nat)
  /-- Shut the push connection with that number down. -/
  | closePush (number : Nat)
  deriving DecidableEq

/-- What arrives at the session. -/
inductive Message where
  | connection (e : ConnectionEvent)
  | completed (c : Completion)

namespace Session

abbrev Result := Session × List Errand

def quiet (s : Session) : Result := (s, [])

/-- Sends a call, unless the session is over. -/
def ask (c : Call) (s : Session) : Result := if s.tornDown then s.quiet else (s, [.call c])

/-! ### Actions -/

def setCriteria (criteria : Criteria) (s : Session) : Session := { s with criteria }

def requestGraph (r : GraphRequest) (s : Session) : Result :=
  if s.tornDown then s.quiet
  else { s with inFlight := s.inFlight + 1, store := s.store.setLoading true }.ask (.graph r)

def refresh (s : Session) : Result := s.requestGraph .refresh

def clear (s : Session) : Result := s.requestGraph .clear

def prune (id : String) (s : Session) : Result := s.requestGraph (.prune id s.limits.pruneDepth)

def subgraph (id : String) (options : SubgraphOptions) (s : Session) : Result :=
  s.requestGraph (.subgraph id options)

def canRetry (s : Session) : Bool := s.failed.isSome

/-- Asks again for what failed last; tells whether anything had. -/
def tryAgain (s : Session) : Result × Bool :=
  match s.failed with
  | some r => ({ s with failed := none }.requestGraph r, true)
  | none => (s.quiet, false)

def retry (s : Session) : Result := s.tryAgain.1

def dismissError (s : Session) : Session := { s with store := s.store.setError none }

def loadStats (s : Session) : Result := s.ask .stats

def select (id : Option String) (s : Session) : Result :=
  if s.selection.selected = id then s.quiet
  else
    let s := { s with selection := { s.selection with selected := id }, details := none }
    match id with
    | some id => s.ask (.details id)
    | none => s.quiet

def hover (id : Option String) (s : Session) : Session :=
  { s with selection := { s.selection with hovered := id } }

def findPaths (source target : String) (s : Session) : Result :=
  s.ask (.paths source target s.limits.pathLength)

def clearPaths (s : Session) : Session := { s with paths := [] }

/-- Searches on the backend among the kinds that are shown. A blank query finds nothing. -/
def search (query : String) (s : Session) : Result :=
  let query := Text.trim query
  if query = "" then { s with found := [] }.quiet
  else s.ask (.search query ⟨s.criteria.allowed, some s.limits.searchLimit⟩)

def exportFromServer (format : ExportFormat) (s : Session) : Result := s.ask (.artifact format)

def takeArtifact (s : Session) : Session × Option (ExportFormat × Artifact) :=
  ({ s with artifact := none }, s.artifact)

def connect (s : Session) : Result :=
  if s.tornDown then s.quiet
  else
    ({ s with connection := some s.opened, opened := s.opened + 1 },
      (s.connection.map Errand.closePush).toList ++ [.openPush s.opened])

def teardown (s : Session) : Result :=
  if s.tornDown then s.quiet
  else
    ({ s with tornDown := true, connection := none, connectionState := .disconnected },
      (s.connection.map Errand.closePush).toList)

/-! ### Arrivals -/

def forgetMissing (s : Session) : Session :=
  let isGone (id : Option String) : Bool := id.any fun id => !s.store.snapshot.contains id
  let s := if isGone s.selection.selected then
      { s with selection := { s.selection with selected := none }, details := none }
    else s
  if isGone s.selection.hovered then
    { s with selection := { s.selection with hovered := none } }
  else s

def finishGraphRequest (s : Session) : Session :=
  let inFlight := s.inFlight - 1
  { s with inFlight, store := s.store.setLoading (inFlight > 0) }

def setError (why : String) (s : Session) : Session :=
  { s with store := s.store.setError (some why) }

def fail (r : GraphRequest) (why : String) (s : Session) : Session :=
  { s.setError why with failed := some r }

def declined : String := "backend declined to clear the graph"

def complete (c : Completion) (s : Session) : Session :=
  match c with
  | .graph r result =>
    let s := s.finishGraphRequest
    match result with
    | .ok p =>
      forgetMissing { s with
        store := (s.store.replace (.ofPayload p)).setError none, failed := none }
    | .error why => s.fail r why.message
  | .cleared result =>
    let s := s.finishGraphRequest
    match result with
    | .ok true =>
      { s with
        store := s.store.clear.setError none, failed := none, selection := {}, details := none
        paths := [] }
    | .ok false => s.fail .clear declined
    | .error why => s.fail .clear why.message
  | .stats result => { s with stats := result.toOption }
  | .details id result =>
    if s.selection.selected = some id then
      { s with details := result.toOption.map fun value => ⟨id, value⟩ }
    else s
  | .paths result =>
    match result with
    | .ok paths => { s with paths }
    | .error why => s.setError why.message
  | .search _ result =>
    match result with
    | .ok found => { s with found }
    | .error why => s.setError why.message
  | .artifact format result =>
    match result with
    | .ok a => { s with artifact := some (format, a) }
    | .error why => s.setError why.message

/-- Takes one message. A session that is over takes none. -/
def receive (m : Message) (s : Session) : Result :=
  if s.tornDown then s.quiet
  else match m with
    | .connection (.state state) => { s with connectionState := state }.quiet
    | .connection (.push .graphUpdated) => s.refresh
    | .connection (.push (.delta d)) =>
      let (store, outcome) := s.store.apply d
      let s := { s with store }
      (if outcome = .applied then s.forgetMissing else s).quiet
    | .connection (.push (.ignored _)) => s.quiet
    | .completed c => (s.complete c).quiet

def receiveAll (messages : List Message) (s : Session) : Result :=
  messages.foldl (fun (s, errands) m =>
    let (s, more) := s.receive m
    (s, errands ++ more)) (s, [])

end Session

end CodeAtlas
