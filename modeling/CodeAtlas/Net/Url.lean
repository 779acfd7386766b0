import CodeAtlas.Net.Host
import CodeAtlas.Text.Lowercase

/-!
Web addresses: what a text becomes when a browser reads it. Tabs and line breaks vanish, `.` and
`..` are resolved, and characters that cannot stand in a request are escaped. The schemes of the
web take a backslash for a slash and need a host; a file may have one, and other schemes may have
no slashes at all.
-/
namespace CodeAtlas.Net

inductive UrlPath where
  /-- Segments, each behind a slash. -/
  | segments (parts : List String)
  /-- A text that is not divided. -/
  | undivided (text : String)
  deriving DecidableEq, Repr

def UrlPath.text : UrlPath → String
  | .segments parts => String.join (parts.map ("/" ++ ·))
  | .undivided text => text

/-- An address. User and password are left out: they are no part of what is asked for. -/
structure Url where
  scheme : String
  /-- None if the address has no place for a host; empty if the place is. -/
  host : Option String
  port : Option Nat := none
  path : UrlPath
  query : Option String
  fragment : Option String
  deriving DecidableEq, Repr

namespace Url

/-! ### Escapes -/

def escapeByte (b : UInt8) : List Char :=
  '%' :: (Text.hexByte b).map Char.toUpper

def isControlOrWide (c : Char) : Bool := c.toNat < 0x20 || 0x7E < c.toNat

def escapeWith (more : String) (cs : List Char) : String :=
  String.ofList (cs.flatMap fun c =>
    if isControlOrWide c || more.toList.contains c then
      (Text.utf8 (String.ofList [c])).flatMap escapeByte
    else [c])

def escapePath (cs : List Char) : String := escapeWith " \"#<>?`\x7b\x7d" cs

def escapeFragment (cs : List Char) : String := escapeWith " \"<>`" cs

/-! ### Schemes -/

inductive SchemeKind where
  | web
  | file
  | other
  deriving DecidableEq, Repr

def webPorts : List (String × Nat) :=
  [("http", 80), ("https", 443), ("ws", 80), ("wss", 443), ("ftp", 21)]

def kindOf (scheme : String) : SchemeKind :=
  if scheme = "file" then .file
  else if webPorts.any (·.1 = scheme) then .web
  else .other

def defaultPort? (scheme : String) : Option Nat := (webPorts.find? (·.1 = scheme)).map (·.2)

def SchemeKind.isSlash (k : SchemeKind) (c : Char) : Bool := c == '/' || (k ≠ .other && c == '\\')

def SchemeKind.isBreak (k : SchemeKind) (c : Char) : Bool := k.isSlash c || c == '?' || c == '#'

def escapeQuery (k : SchemeKind) (cs : List Char) : String :=
  escapeWith (if k = .other then " \"#<>" else " \"#<>\x27") cs

def isSchemeChar (c : Char) : Bool := c.isAlphanum || c == '+' || c == '-' || c == '.'

def splitScheme? (cs : List Char) : Option (String × List Char) :=
  match cs, cs.dropWhile isSchemeChar with
  | c :: _, ':' :: rest =>
    if c.isAlpha then
      some (String.ofList ((cs.takeWhile isSchemeChar).map Text.lowerAscii), rest)
    else none
  | _, _ => none

/-! ### Paths -/

def isDot (cs : List Char) : Bool := ["." , "%2e"].contains (String.ofList (cs.map Text.lowerAscii))

def isDoubleDot (cs : List Char) : Bool :=
  ["..", ".%2e", "%2e.", "%2e%2e"].contains (String.ofList (cs.map Text.lowerAscii))

def isDrive : List Char → Bool
  | [c, d] => c.isAlpha && (d == ':' || d == '|')
  | _ => false

def parent (done : List String) : List String :=
  if done.getLast?.any fun s => isDrive s.toList then done else done.dropLast

/-- A segment as it is written. The first segment of a file's path may be a drive, which is written
with a colon. -/
def segment (k : SchemeKind) (done : List String) (s : List Char) : String :=
  match s with
  | [c, '|'] => if k = .file && done.isEmpty && c.isAlpha then String.ofList [c, ':'] else escapePath s
  | _ => escapePath s

/-- The segments of a path with `.` and `..` resolved. One of them at the end leaves an empty
segment. -/
def resolve (k : SchemeKind) : List String → List (List Char) → List String
  | done, [] => done
  | done, s :: rest =>
    let closing := if rest.isEmpty then [""] else []
    if isDoubleDot s then resolve k (parent done ++ closing) rest
    else if isDot s then resolve k (done ++ closing) rest
    else resolve k (done ++ [segment k done s]) rest

def segmentsOf (k : SchemeKind) (cs : List Char) : List String :=
  match cs with
  | [] => if k = .other then [] else [""]
  | c :: rest => resolve k [] (Text.parts k.isSlash (if k.isSlash c then rest else cs))

/-- A path without empty segments at its start, but for the last one. -/
def trimLeading : List String → List String
  | "" :: s :: rest => trimLeading (s :: rest)
  | parts => parts

/-! ### Hosts -/

def isUnfitForHost (c : Char) : Bool :=
  c == '\x00' || " \t\n\r#/:<>?@[\\]^|".toList.contains c

def plainHost? : List Char → Option String
  | '[' :: rest => bracketed? rest
  | cs => if cs.any isUnfitForHost then none else some (escapeWith "" cs)

/-- The length of a host: it ends at a break, or at a colon that is not in brackets. -/
def hostLength (k : SchemeKind) : Bool → List Char → Nat
  | _, [] => 0
  | inside, c :: cs =>
    if k.isBreak c || (c == ':' && !inside) then 0
    else hostLength k (c == '[' || (inside && c != ']')) cs + 1

def port? (scheme : String) (ds : List Char) : Option (Option Nat) :=
  let n := ds.foldl (fun n c => n * 10 + (c.toNat - 48)) 0
  if n > 65535 then none
  else some (if ds.isEmpty || defaultPort? scheme = some n then none else some n)

def splitPort? (scheme : String) : List Char → Option (Option Nat × List Char)
  | ':' :: cs => do
    let port ← port? scheme (cs.takeWhile Char.isDigit)
    match cs.dropWhile Char.isDigit with
    | [] => some (port, [])
    | c :: rest => if SchemeKind.web.isBreak c then some (port, c :: rest) else none
  | cs => some (none, cs)

def splitUser (k : SchemeKind) (cs : List Char) : Option (List Char) × List Char :=
  let place := cs.takeWhile fun c => !k.isBreak c
  let behind := (place.reverse.takeWhile (· ≠ '@')).reverse
  if behind.length = place.length then (none, cs)
  else
    let user := (place.take (place.length - behind.length)).dropLast
    (some user, cs.drop (user.length + 1))

/-- Whether a host may be missing: not on the web, not in front of a port, and not behind a user. -/
def mayLackHost (k : SchemeKind) (user : Option (List Char)) (rest : List Char) : Bool :=
  k ≠ .web && rest.head? ≠ some ':' && match user with
    | none | some [':'] => true
    | some [] => rest.isEmpty
    | some _ => false

/-! ### Reading -/

/-- The text that is read: without blanks and controls at its ends, and without tabs and breaks. -/
def cleaned (s : String) : List Char :=
  let isEnd (c : Char) : Bool := c.toNat ≤ 0x20
  let cs := ((s.toList.dropWhile isEnd).reverse.dropWhile isEnd).reverse
  cs.filter fun c => c != '\t' && c != '\n' && c != '\r'

def isTail (c : Char) : Bool := c == '?' || c == '#'

def splitTail (k : SchemeKind) (cs : List Char) : Option String × Option String :=
  let query := match cs with
    | '?' :: more => some (escapeQuery k (more.takeWhile (· ≠ '#')))
    | _ => none
  let fragment := match cs.dropWhile (· ≠ '#') with
    | _ :: more => some (escapeFragment more)
    | [] => none
  (query, fragment)

/-- An address from its path on. The path of a file starts with no empty segment, and one that starts
with a drive leaves no place for a host. -/
def withPath (scheme : String) (host : Option String) (port : Option Nat) (cs : List Char) : Url :=
  let k := kindOf scheme
  let parts := segmentsOf k (cs.takeWhile (!isTail ·))
  let (query, fragment) := splitTail k (cs.dropWhile (!isTail ·))
  let hasDrive := k = .file && parts.head?.any fun s => isDrive s.toList
  { scheme, port, query, fragment
    host := if hasDrive then some "" else host
    path := .segments (if k = .file then trimLeading parts else parts) }

def withHost? (scheme : String) (cs : List Char) : Option Url := do
  let k := kindOf scheme
  let (user, cs) := splitUser k cs
  let size := hostLength k false cs
  let rest := cs.drop size
  if size = 0 && !mayLackHost k user rest then none
  else
    let host ← if k = .web then host? (cs.take size) else plainHost? (cs.take size)
    let (port, rest) ← splitPort? scheme rest
    return withPath scheme (some host) port rest

def file? (cs : List Char) : Option Url := do
  let k := SchemeKind.file
  match cs with
  | a :: b :: rest =>
    if k.isSlash a && k.isSlash b then
      let name := rest.takeWhile fun c => !k.isBreak c
      let behind := rest.dropWhile fun c => !k.isBreak c
      if isDrive name then return withPath "file" (some "") none ('/' :: rest)
      else if name.isEmpty then return withPath "file" (some "") none behind
      else
        let host ← host? name
        return withPath "file" (some (if host = "localhost" then "" else host)) none behind
    else return withPath "file" (some "") none cs
  | cs => return withPath "file" (some "") none cs

def bare (scheme : String) (cs : List Char) : Url :=
  match cs with
  | '/' :: _ => withPath scheme none none cs
  | cs =>
    let (query, fragment) := splitTail .other (cs.dropWhile (!isTail ·))
    { scheme, host := none
      path := .undivided (escapeWith "" (cs.takeWhile (!isTail ·))), query, fragment }

def parse? (s : String) : Option Url := do
  let (scheme, rest) ← splitScheme? (cleaned s)
  match kindOf scheme, rest with
  | .web, rest => withHost? scheme (rest.dropWhile SchemeKind.web.isSlash)
  | .file, rest => file? rest
  | .other, '/' :: '/' :: rest => withHost? scheme rest
  | .other, rest => return bare scheme rest

/-! ### Use -/

def addQuery (name value : String) (u : Url) : Url :=
  let pair := name ++ "=" ++ value
  { u with query := match u.query with
      | none | some "" => some pair
      | some q => some (q ++ "&" ++ pair) }

def hasHost (u : Url) : Bool := u.host.any (· ≠ "")

def isHttp (u : Url) : Bool := u.scheme = "http" || u.scheme = "https"

def target (u : Url) : String :=
  u.path.text ++ match u.query with
    | some q => "?" ++ q
    | none => ""

/-- The whole address. Without a host, a path that starts with an empty segment is kept from being
taken for one. -/
def text (u : Url) : String :=
  let place := match u.host with
    | some host => "//" ++ host
    | none => if u.path.text.startsWith "//" then "/." else ""
  let port := match u.port with
    | some p => ":" ++ toString p
    | none => ""
  let fragment := match u.fragment with
    | some f => "#" ++ f
    | none => ""
  u.scheme ++ ":" ++ place ++ port ++ u.target ++ fragment

end Url

end CodeAtlas.Net
