import CodeAtlas.Failure
import CodeAtlas.Text.Utf8

/-!
Frames of the push channel, and the texts that they carry.
-/
namespace CodeAtlas.Push

inductive Frame where
  | text (s : String)
  | binary (bytes : Text.Bytes)
  | ping
  | pong
  | close
  deriving DecidableEq, Repr

inductive Heard where
  | text (s : String)
  | failed (why : Failure)
  | closed
  deriving DecidableEq, Repr

def brokenOff : Failure :=
  .transport "WebSocket protocol error: Connection reset without closing handshake"

namespace Frame

/-- A binary frame is a text in UTF-8. Pings and pongs are not heard. -/
def heard? : Frame → Option Heard
  | .text s => some (.text s)
  | .binary bytes =>
    match Text.decodeUtf8 bytes with
    | .ok s => some (.text s)
    | .error why => some (.failed (.protocol s!"binary frame is not UTF-8: {why.message}"))
  | .ping | .pong => none
  | .close => some .closed

end Frame

/-- All that is heard of some frames, after which the connection breaks. Nothing is heard behind
a closing frame. -/
def listen : List Frame → List Heard
  | [] => [.failed brokenOff]
  | .close :: _ => [.closed]
  | f :: fs => f.heard?.toList ++ listen fs

end CodeAtlas.Push
