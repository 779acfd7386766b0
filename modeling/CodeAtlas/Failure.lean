import CodeAtlas.Json.Shape

/-!
What can go wrong, by cause, and the one place where each cause is put into words.
-/
namespace CodeAtlas

inductive Unreadable where
  | ended
  | malformed
  | misshapen (why : Json.Mismatch)
  deriving DecidableEq, Repr

inductive Failure where
  /-- The other side could not be reached, or the connection broke. -/
  | transport (why : String)
  /-- The backend answered with an error of its own. -/
  | backend (why : String)
  /-- A message did not have the agreed form. -/
  | protocol (why : String)
  | json (why : Unreadable)
  /-- A link names a node that is not there. -/
  | dangling (source target kind : String)
  | exporting (why : String)
  | config (why : String)
  | io (why : String)
  deriving DecidableEq, Repr

def Unreadable.message : Unreadable → String
  | .ended => "EOF while parsing"
  | .malformed => "syntax error"
  | .misshapen why => why.message

def Failure.message : Failure → String
  | .transport why => "transport error: " ++ why
  | .backend why => "backend error: " ++ why
  | .protocol why => "protocol error: " ++ why
  | .json why => "invalid JSON payload: " ++ why.message
  | .dangling source target kind => s!"link {source} -[{kind}]-> {target} references a missing node"
  | .exporting why => "export failed: " ++ why
  | .config why => "configuration error: " ++ why
  | .io why => why

end CodeAtlas
