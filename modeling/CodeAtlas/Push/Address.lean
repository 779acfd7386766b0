import CodeAtlas.Failure
import CodeAtlas.Text.Utf8

/-!
Addresses of the push channel, and why one cannot be used.
-/
namespace CodeAtlas.Push

inductive AddressFault where
  | empty
  | tooLong
  | schemeTooLong
  | badCharacter
  | badAuthority
  | badFormat
  | noHost
  | otherScheme
  deriving DecidableEq, Repr

def AddressFault.message : AddressFault → String
  | .empty => "HTTP format error: empty string"
  | .tooLong => "HTTP format error: uri too long"
  | .schemeTooLong => "HTTP format error: scheme too long"
  | .badCharacter => "HTTP format error: invalid uri character"
  | .badAuthority => "HTTP format error: invalid authority"
  | .badFormat => "HTTP format error: invalid format"
  | .noHost => "URL error: No host name in the URL"
  | .otherScheme => "URL error: URL scheme not supported"

def AddressFault.failure (f : AddressFault) : Failure := .transport f.message

/-- An address in its parts; it may lack the first two. What follows `#` is not kept. -/
structure Address where
  scheme : Option String := none
  authority : Option String := none
  path : String := ""
  query : Option String := none
  deriving DecidableEq, Repr

namespace Address

def isSchemeChar (c : Char) : Bool :=
  c.isAlphanum || c == '+' || c == '-' || c == '.' || c == '~'

def splitScheme (cs : List Char) : Option (List Char × List Char) :=
  match cs.dropWhile isSchemeChar with
  | ':' :: '/' :: '/' :: rest => some (cs.takeWhile isSchemeChar, rest)
  | _ => none

def isUriChar (c : Char) : Bool :=
  c.isAlphanum || "!#$&'()*+,-./:;=?@[]_~".toList.contains c

structure Seen where
  colons : Nat := 0
  opened : Bool := false
  closed : Bool := false
  percent : Bool := false
  /-- The last character was an `@`. -/
  atEnd : Bool := false

/-- One more character of an authority. Colons and percent signs of the user part and of an
address in brackets are forgotten behind it. -/
def Seen.next (s : Seen) (c : Char) : Except AddressFault Seen :=
  let s := { s with atEnd := false }
  if c = ':' then
    if s.colons ≥ 8 then .error .badAuthority else .ok { s with colons := s.colons + 1 }
  else if c = '[' then
    if s.percent || s.opened then .error .badAuthority else .ok { s with opened := true }
  else if c = ']' then
    if !s.opened || s.closed then .error .badAuthority
    else .ok { s with closed := true, colons := 0, percent := false }
  else if c = '@' then .ok { s with atEnd := true, colons := 0, percent := false }
  else if c = '%' then .ok { s with percent := true }
  else if isUriChar c then .ok s
  else .error .badCharacter

def isAuthorityEnd (c : Char) : Bool := c == '/' || c == '?' || c == '#'

def splitAuthority (cs : List Char) : Except AddressFault (List Char × List Char) := do
  let authority := cs.takeWhile fun c => !isAuthorityEnd c
  let seen ← authority.foldlM Seen.next {}
  if seen.opened != seen.closed || seen.colons > 1 || seen.atEnd || seen.percent then
    .error .badAuthority
  else return (authority, cs.dropWhile fun c => !isAuthorityEnd c)

def isPathChar (c : Char) : Bool :=
  let n := c.toNat
  n == 0x21 || n == 0x22 || (0x24 ≤ n && n ≤ 0x3B) || n == 0x3D || (0x40 ≤ n && n ≤ 0x5F) ||
    (0x61 ≤ n && n != 0x7F)

def isQueryChar (c : Char) : Bool :=
  let n := c.toNat
  n == 0x21 || (0x24 ≤ n && n ≤ 0x3B) || n == 0x3D || (0x3F ≤ n && n != 0x7F)

def splitPath (cs : List Char) : Except AddressFault (String × Option String) :=
  let isPart (c : Char) : Bool := isPathChar c && c != '?'
  let path := String.ofList (cs.takeWhile isPart)
  match cs.dropWhile isPart with
  | [] | '#' :: _ => .ok (path, none)
  | '?' :: rest =>
    match rest.dropWhile isQueryChar with
    | [] | '#' :: _ => .ok (path, some (String.ofList (rest.takeWhile isQueryChar)))
    | _ => .error .badCharacter
  | _ => .error .badCharacter

def bare (cs : List Char) (otherwise : AddressFault) : Except AddressFault Address := do
  let (authority, rest) ← splitAuthority cs
  if rest.isEmpty then return { authority := some (String.ofList authority) } else .error otherwise

def parse (s : String) : Except AddressFault Address :=
  let cs := s.toList
  if s.utf8ByteSize > 65534 then .error .tooLong
  else match cs with
    | [] => .error .empty
    | ['/'] | ['*'] => .ok { path := s }
    | [c] => bare [c] .badCharacter
    | '/' :: _ => do
      let (path, query) ← splitPath cs
      return { path, query }
    | cs =>
      match splitScheme cs with
      | none => bare cs .badFormat
      | some (scheme, rest) => do
        if scheme.length > 64 then .error .schemeTooLong
        else if rest.isEmpty then .error .empty
        else
          let (authority, rest) ← splitAuthority rest
          if authority.isEmpty then .error .badFormat
          else
            let (path, query) ← splitPath rest
            return ⟨some (String.ofList scheme), some (String.ofList authority), path, query⟩

def text (a : Address) : String :=
  let scheme := match a.scheme with
    | some scheme => scheme ++ "://"
    | none => ""
  let query := match a.query with
    | some query => "?" ++ query
    | none => ""
  scheme ++ a.authority.getD "" ++ (if a.path = "" then "/" else a.path) ++ query

def usable (s : String) : Except AddressFault Address := do
  let a ← parse s
  if a.authority.isNone then .error .noHost
  else if a.scheme == some "ws" || a.scheme == some "wss" then return a
  else .error .otherScheme

end Address

end CodeAtlas.Push
