import CodeAtlas.Disk
import CodeAtlas.Failure
import CodeAtlas.Layout.Physics
import CodeAtlas.Toml.Reader

/-!
The viewer's settings, read from a TOML document in which every one of them can be left out.
-/
namespace CodeAtlas

structure QueryLimits where
  pruneDepth : Nat := 3
  pathLength : Nat := 5
  searchLimit : Nat := 50
  deriving DecidableEq, Repr

structure PushTiming where
  reconnectDelay : Nat := 5000
  keepalive : Option Nat := some 30000
  deriving DecidableEq, Repr

namespace PushTiming

def pingPeriod? (t : PushTiming) : Option Nat := t.keepalive.filter (· > 0)

/-- A clock counts nanoseconds, and the seconds of its readings have 63 bits. -/
def clockEnd : Nat := 9223372036854775808 * 1000000000

def idlePeriod : Nat := 365 * 24 * 60 * 60 * 1000

/-- Whether a clock that reads `now` can be set for the first ping. -/
def fitsClock (t : PushTiming) (now : Nat) : Bool :=
  now + t.pingPeriod?.getD idlePeriod * 1000000 < clockEnd

end PushTiming

structure Settings where
  backendUrl : String := "http://127.0.0.1:5000"
  pushUrl? : Option String := none
  reconnectDelayMs : Nat := 5000
  keepaliveSecs : Nat := 30
  requestTimeoutMs : Nat := 30000
  pruneDepth : Nat := 3
  pathMaxLength : Nat := 5
  searchLimit : Nat := 50
  exportDir : String := "."
  tuning : Layout.Tuning Float32 := .standard

namespace Settings

/-! ### Reading -/

/-- A field of a document, or the value it has without one; none if it has the wrong type. -/
def fieldOr {α : Type} (es : Toml.Entries) (name : String) (default : α)
    (read : Toml → Option α) : Option α :=
  match es.find? name with
  | none => some default
  | some v => read v

def text? : Toml → Option String
  | .text s => some s
  | _ => none

def nat? (bits : Nat) : Toml → Option Nat
  | .integer n => if 0 ≤ n && n < (Nat.pow 2 bits : Int) then some n.toNat else none
  | _ => none

def number? : Toml → Option Float32
  | .real x => some x.toFloat32
  | .integer n =>
    if -(Nat.pow 2 63 : Int) ≤ n && n < (Nat.pow 2 64 : Int) then some (Float32.ofInt n) else none
  | _ => none

def tuningOf (es : Toml.Entries) : Option (Layout.Tuning Float32) := do
  let t : Layout.Tuning Float32 := .standard
  return {
    intensity := ← fieldOr es "intensity" t.intensity number?
    repulsion := ← fieldOr es "repulsion" t.repulsion number?
    spring := ← fieldOr es "spring" t.spring number?
    collision := ← fieldOr es "collision" t.collision number?
    damping := ← fieldOr es "velocity_damping" t.damping number? }

def itemOr (items : List Toml) (place : Nat) (default : Float32) : Option Float32 :=
  match items[place]? with
  | none => some default
  | some v => number? v

/-- The tuning as a table, or as a list of its values in order. A moment has no field of it. -/
def tuning? : Toml → Option (Layout.Tuning Float32)
  | .table _ _ es | .closed es => tuningOf es
  | .moment => some .standard
  | .list items => do
    let t : Layout.Tuning Float32 := .standard
    return {
      intensity := ← itemOr items 0 t.intensity
      repulsion := ← itemOr items 1 t.repulsion
      spring := ← itemOr items 2 t.spring
      collision := ← itemOr items 3 t.collision
      damping := ← itemOr items 4 t.damping }
  | _ => none

def ofEntries (es : Toml.Entries) : Option Settings := do
  let d : Settings := {}
  return {
    backendUrl := ← fieldOr es "backend_url" d.backendUrl text?
    pushUrl? := ← fieldOr es "push_url" none fun v => (text? v).map some
    reconnectDelayMs := ← fieldOr es "reconnect_delay_ms" d.reconnectDelayMs (nat? 64)
    keepaliveSecs := ← fieldOr es "keepalive_secs" d.keepaliveSecs (nat? 64)
    requestTimeoutMs := ← fieldOr es "request_timeout_ms" d.requestTimeoutMs (nat? 64)
    pruneDepth := ← fieldOr es "prune_depth" d.pruneDepth (nat? 32)
    pathMaxLength := ← fieldOr es "path_max_length" d.pathMaxLength (nat? 32)
    searchLimit := ← fieldOr es "search_limit" d.searchLimit (nat? 64)
    exportDir := ← fieldOr es "export_dir" d.exportDir text?
    tuning := ← fieldOr es "layout" d.tuning tuning? }

def parse (text : String) : Except Failure Settings :=
  match (Toml.parse? text).bind ofEntries with
  | some s => .ok s
  | none => .error (.config "malformed settings")

def defaultFile : String := "codegraph-viewer.toml"

/-- Settings from a named file, which has to be there, or from the default file if it is. -/
def load (d : Disk) (path? : Option String) : Except Failure Settings :=
  let path := path?.getD defaultFile
  if path?.isNone && !d.contains path then .ok {}
  else match d.readText path with
    | .error why => .error (.config s!"failed to read {path}: {why.message}")
    | .ok text =>
      match parse text with
      | .error (.config why) => .error (.config s!"{path}: {why}")
      | result => result

def override (s : Settings) (backendUrl pushUrl : Option String) : Settings :=
  { s with backendUrl := backendUrl.getD s.backendUrl, pushUrl? := pushUrl <|> s.pushUrl? }

/-! ### Use -/

def trimSlashes (s : String) : String :=
  String.ofList (s.toList.reverse.dropWhile (· = '/')).reverse

def swapStart? (old new s : String) : Option String :=
  if s.startsWith old then some (new ++ String.ofList (s.toList.drop old.length)) else none

/-- Where the push channel is: as given, or `/ws` below the backend. -/
def pushUrl (s : Settings) : String :=
  match s.pushUrl? with
  | some url => url
  | none =>
    let base := trimSlashes s.backendUrl
    let base := (swapStart? "https://" "wss://" base <|> swapStart? "http://" "ws://" base).getD base
    base ++ "/ws"

def requestTimeout (s : Settings) : Nat := max s.requestTimeoutMs 1

def queryLimits (s : Settings) : QueryLimits :=
  ⟨max s.pruneDepth 1, max s.pathMaxLength 1, max s.searchLimit 1⟩

def pushTiming (s : Settings) : PushTiming :=
  ⟨s.reconnectDelayMs, if s.keepaliveSecs = 0 then none else some (s.keepaliveSecs * 1000)⟩

end Settings

end CodeAtlas
