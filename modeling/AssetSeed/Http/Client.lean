import AssetSeed.Http.Message
import AssetSeed.Http.Url
import AssetSeed.Json.Reader
import AssetSeed.Record.Codec
import AssetSeed.Store.Protocol
import AssetSeed.Text.Pieces

/-!
# The asset database over HTTP

## Main definitions

* `StoreClient` — where the database is, and the token that opens it.
* `StoreClient.send` — one request, and what its reply means.
* `StoreClient.listPages` — a listing, page by page.
* `StoreClient.answer` — a request to the database as a conversation over HTTP.
-/

namespace AssetSeed

structure StoreClient where
  /-- The address of the database, without slashes at its end. -/
  base : String
  token : Option String
  /-- How many pages of a listing are asked for at most. -/
  maxPages : Nat
deriving Repr, DecidableEq

namespace StoreClient

open Text

/-- The client of an address. The empty token is no token. -/
def ofUrl (url : String) (token : Option String) (maxPages : Nat) : StoreClient where
  base := String.ofList (url.toList.reverse.dropWhile (· = '/')).reverse
  token := token.filter (!·.isEmpty)
  maxPages := maxPages

def pageLimit : Nat :=
  1000

/-- Where the records of a kind are, below the base. -/
def endpoint : Kind → String
  | .group => "/users/groups/"
  | .objectType => "/extras/content-types/"
  | .permission => "/users/permissions/"
  | .manufacturer => "/dcim/manufacturers/"
  | .role => "/dcim/device-roles/"
  | .deviceType => "/dcim/device-types/"
  | .site => "/dcim/sites/"
  | .ipPrefix => "/ipam/prefixes/"
  | .device => "/dcim/devices/"
  | .interface => "/dcim/interfaces/"
  | .address => "/ipam/ip-addresses/"

/-- Narrows a listing to the records without a description. -/
def undescribedQuery : String :=
  "?description__empty=true"

def url (client : StoreClient) (path : String) : String :=
  client.base ++ "/api" ++ path

/-- The address of the first page of a listing. -/
def firstPage (client : StoreClient) (path : String) : String :=
  let separator := if path.toList.contains '?' then "&" else "?"
  client.url (path ++ separator ++ "limit=" ++ toString pageLimit)

def recordPath (kind : Kind) (id : Int) : String :=
  endpoint kind ++ toString id ++ "/"

def headers (client : StoreClient) (body : Option Json) : List (String × String) :=
  [("accept", "application/json")]
    ++ (client.token.map fun token => ("authorization", "Token " ++ token)).toList
    ++ (body.map fun _ => ("content-type", "application/json")).toList

/-- Whether a text can be sent in a header: no control character is in it but the tab. -/
def isHeaderText (s : String) : Bool :=
  s.toList.all fun c => c = '\t' || (32 ≤ c.toNat && c.toNat ≠ 127)

/-- Whether the request can be sent at all. -/
def isSendable (request : HttpRequest) : Bool :=
  Url.isUsable request.url && request.headers.all fun header => isHeaderText header.2

/-- The value that a granted request returned. -/
def decodeBody (α : Type) [Wire α] (reply : HttpReply) : Except StoreError α :=
  match ((utf8Decode? reply.body).bind Json.ofText?).bind (decode? (α := α)) with
  | some value => .ok value
  | none => .error (.malformedInput "NetBox response: unexpected content")

/-- What a reply means: the value asked for, a refusal, or that something is wrong. -/
def interpret (α : Type) [Wire α] : Except String HttpReply → Except StoreError α
  | .error detail => .error (.connectivity detail)
  | .ok reply =>
    if reply.isSuccess then decodeBody α reply
    else if reply.isRefusal then .error (.rejected reply.status reply.text)
    else .error (.unexpected
      ("NetBox API error " ++ HttpReply.statusText reply.status ++ ": " ++ reply.text))

def send (client : StoreClient) (α : Type) [Wire α] (method : HttpMethod) (url : String)
    (body : Option Json) : HttpDialogue (Except StoreError α) :=
  let request : HttpRequest := { method, url, headers := client.headers body, body }
  if isSendable request then
    (Dialogue.call (P := HttpProtocol) request).map (interpret α)
  else .done (.error (.unexpected "the request cannot be built"))

/-- The pages of a listing from the one at `url` on, at most `pages` of them. A page leads to the
next one unless its link is empty. -/
def listPages (client : StoreClient) (α : Type) [Wire α] :
    (pages : Nat) → (url : String) → HttpDialogue (Except StoreError (List α))
  | 0, _ => .done (.error (.unexpected "the listing does not end"))
  | pages + 1, url => do
    match ← client.send (Record.Page α) .get url none with
    | .error e => return .error e
    | .ok page =>
      match page.next.filter (!·.isEmpty) with
      | none => return .ok page.results
      | some next =>
        match ← client.listPages α pages next with
        | .error e => return .error e
        | .ok rest => return .ok (page.results ++ rest)

def list (client : StoreClient) (α : Type) [Wire α] (path : String) :
    HttpDialogue (Except StoreError (List α)) :=
  client.listPages α client.maxPages (client.firstPage path)

/-- A request to the database as a conversation over HTTP. -/
def answer (client : StoreClient) : (request : StoreRequest) →
    HttpDialogue (Except StoreError request.Reply)
  | .list kind => client.list kind.Record (endpoint kind)
  | .listUndescribed => client.list Record.IpPrefix (endpoint .ipPrefix ++ undescribedQuery)
  | .create kind draft =>
    client.send kind.Record .post (client.url (endpoint kind)) (some (kind.encodeDraft draft))
  | .describe id description =>
    client.send Record.IpPrefix .patch (client.url (recordPath .ipPrefix id))
      (some (Draft.encodeDescription description))
  | .setPrimary device address =>
    client.send Record.Device .patch (client.url (recordPath .device device)) (some address.encode)

end StoreClient

end AssetSeed
