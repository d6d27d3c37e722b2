import AssetSeed.Dialogue
import AssetSeed.Json.Basic
import AssetSeed.Text.Utf8

/-!
# Messages of HTTP

## Main definitions

* `HttpRequest`, `HttpReply` — what is sent and what comes back.
* `HttpProtocol` — conversations with a server that may not be reached.
* `noServer` — what is heard where there is no server.
* `HttpReply.statusText` — a status with the phrase that belongs to it.
-/

namespace AssetSeed

inductive HttpMethod where
  | get
  | post
  | patch
deriving Repr, DecidableEq

def HttpMethod.name : HttpMethod → String
  | get => "GET"
  | post => "POST"
  | patch => "PATCH"

structure HttpRequest where
  method : HttpMethod
  url : String
  headers : List (String × String)
  body : Option Json := none
deriving Repr

structure HttpReply where
  status : Nat
  body : Bytes
deriving Repr, DecidableEq

/-- A server answers, or it is not reached for the reason given. -/
@[reducible] def HttpProtocol : Protocol where
  Question := HttpRequest
  Answer _ := Except String HttpReply

abbrev HttpDialogue := Dialogue HttpProtocol

/-- Every request fails, whatever it is. -/
def noServer : Responder HttpProtocol Unit :=
  fun _ _ => (.error "error sending request", ())

namespace HttpReply

def phrases : List (Nat × String) := [
  (100, "Continue"), (101, "Switching Protocols"), (102, "Processing"), (103, "Early Hints"),
  (300, "Multiple Choices"), (301, "Moved Permanently"), (302, "Found"), (303, "See Other"),
  (304, "Not Modified"), (305, "Use Proxy"), (307, "Temporary Redirect"),
  (308, "Permanent Redirect"), (500, "Internal Server Error"), (501, "Not Implemented"),
  (502, "Bad Gateway"), (503, "Service Unavailable"), (504, "Gateway Timeout"),
  (505, "HTTP Version Not Supported"), (506, "Variant Also Negotiates"),
  (507, "Insufficient Storage"), (508, "Loop Detected"), (510, "Not Extended"),
  (511, "Network Authentication Required")]

/-- The status of a reply that neither grants nor refuses, with its phrase. -/
def statusText (status : Nat) : String :=
  toString status ++ " " ++ (phrases.lookup status).getD "<unknown status code>"

def isSuccess (reply : HttpReply) : Bool :=
  200 ≤ reply.status && reply.status < 300

def isRefusal (reply : HttpReply) : Bool :=
  400 ≤ reply.status && reply.status < 500

def text (reply : HttpReply) : String :=
  Text.utf8Lossy reply.body

end HttpReply

end AssetSeed
