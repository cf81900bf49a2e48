import Jukebox.Json.Reader
import Jukebox.Json.Record
import Jukebox.Fault

/-!
# Replies of a media server

Every reply is an envelope that tells whether the request succeeded and holds the payload next to that.  All of it
has to be readable before the status counts.
-/

namespace Jukebox.Subsonic

open Json

/-- An answer over HTTP. -/
structure Response where
  status : Nat
  contentType : Option String
  body : ByteArray

/-- What became of a request. -/
inductive Exchange where
  /-- No answer came. -/
  | lost
  | answered (response : Response)

namespace Response

def isSuccess (r : Response) : Bool := 200 ≤ r.status && r.status < 300

/-- The body as text, if it is text. -/
def text? (r : Response) : Option String := String.fromUTF8? r.body

/-- The fault of an answer without success. -/
def fault (r : Response) : Fault :=
  if r.status = 401 then .authRequired else .status r.status (r.text?.getD "")

end Response

/-- Whether the server did what it was asked for. -/
inductive ReplyStatus where
  | ok
  | failed
deriving DecidableEq, Repr

namespace ReplyStatus

def name : ReplyStatus → String
  | ok => "ok"
  | failed => "failed"

def ofJson? : Json → Option ReplyStatus := asChoice? name [ok, failed]

end ReplyStatus

/-- The server's own account of a failure. -/
structure ApiFailure where
  code : Int
  message : String
deriving DecidableEq, Repr

def ApiFailure.ofJson? : Json → Option ApiFailure := asRecord? do
  return { code := ← required "code" (asInt? 32), message := ← defaulted "message" "" asText? }

/-- What stands in an envelope. -/
structure Envelope (α : Type) where
  status : ReplyStatus
  version : Option String
  error : Option ApiFailure
  payload : α

namespace Envelope

/-- The members of an envelope that are not part of the payload. -/
def ownMembers : List String := ["status", "version", "error"]

/-- How deep a reply may be nested. -/
def maxDepth : Nat := 127

/-- Reads the inside of an envelope.  Everything beside its own members belongs to the payload and has to be
readable, whether the payload uses it or not. -/
def inside? {α : Type} (payload : Fields α) : Json → Option (Envelope α)
  | .object members => do
    let rest := members.filter fun m => m.1 ∉ ownMembers
    if rest.all fun m => m.2.isReadable && m.2.depth + 2 ≤ maxDepth then
      let own := Source.members members
      let (status, _) ← required "status" ReplyStatus.ofJson? own
      let (version, _) ← nullable "version" asText? own
      let (error, _) ← nullable "error" ApiFailure.ofJson? own
      let (payload, _) ← payload (.members rest)
      return { status := status, version := version, error := error, payload := payload }
    else none
  | _ => none

def ofJson? {α : Type} (payload : Fields α) : Json → Option (Envelope α) :=
  asRecord? (required "subsonic-response" (inside? payload))

/-- The envelope that a body holds. -/
def read? {α : Type} (payload : Fields α) (r : Response) : Option (Envelope α) :=
  (r.text?.bind Json.read).bind (ofJson? payload)

/-- The payload of a reply that reports success. -/
def result {α : Type} (e : Envelope α) : Except Fault α :=
  match e.status, e.error with
  | .ok, _ => .ok e.payload
  | .failed, some f => .error (.api f.code f.message)
  | .failed, none => .error (.api 0 "Request failed")

end Envelope

end Jukebox.Subsonic
