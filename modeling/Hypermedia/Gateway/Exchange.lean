import Hypermedia.Delivery
import Hypermedia.Description.OfYaml
import Hypermedia.Gateway.Backend
import Hypermedia.Gateway.Configuration

/-!
# Exchanges through the gateway

The gateway sends each request of a client on to the backend and processes what comes back. Clients
of the gateway take no pushes, so every relation reaches them as a link.

* `Gateway.forwarded` is the request that the backend gets.
* `Gateway.respond` is the response that the client gets.
-/

namespace Hypermedia

open Push (World Transport)

/-! ## Messages -/

/-- A request of a client to the gateway. -/
structure ClientRequest where
  /-- The method. -/
  method : String
  /-- The target. -/
  uri : Uri
  /-- The header fields. -/
  headers : Headers
  /-- The body, or why it could not be read. -/
  body : Except BodyError Bytes

/-- The target and the header fields of a request. -/
def ClientRequest.request (request : ClientRequest) : Request :=
  ⟨request.uri, request.headers⟩

/-- A request of the gateway to the backend. -/
structure BackendRequest where
  /-- The method. -/
  method : String
  /-- The path and query. -/
  target : String
  /-- The header fields. -/
  headers : Headers
  /-- The body. -/
  body : Except BodyError Bytes

/-- What comes back from the backend. -/
inductive BackendAnswer where
  /-- No connection could be made, or no answer could be read. -/
  | failed
  /-- A response; its body may break off. -/
  | received (status : Nat) (headers : Headers) (body : Except BodyError Bytes)

/-- The body of a response to a client. -/
inductive GatewayBody where
  /-- All of it is known. -/
  | complete (bytes : Bytes)
  /-- It is passed on while it comes from the backend. -/
  | relayed (content : Except BodyError Bytes)

/-- The response to a client. -/
structure GatewayResponse where
  /-- The status code. -/
  status : Nat
  /-- The header fields. -/
  headers : Headers
  /-- The body. -/
  body : GatewayBody

/-! ## The gateway -/

/-- A gateway. -/
structure Gateway where
  /-- How responses are processed. -/
  service : Service
  /-- The API behind the gateway. -/
  backend : Backend

/-- Why a gateway cannot be set up. -/
inductive GatewayError where
  /-- The URL names no backend. -/
  | backend (url : String) (cause : BackendError)
  /-- The description of the API cannot be found. -/
  | unreadable
  /-- The description of the API cannot be understood. -/
  | description (cause : Description.ReadError)
  deriving DecidableEq, Repr

/-- The message about a URL that names no backend. -/
def GatewayError.backendMessage (url : String) : String :=
  "Couldn't use upstream " ++ Text.quoted url

namespace Gateway

/-! ## Setting up -/

/-- The description at a path, where `files` is the text of each file that can be read. -/
def readDescription (files : String → Option String) :
    Option String → Except GatewayError (Option Description)
  | none => .ok none
  | some path =>
    match files path with
    | none => .error .unreadable
    | some text =>
      match Description.parse text with
      | .ok description => .ok (some description)
      | .error cause => .error (.description cause)

/-- The gateway of a configuration. -/
def ofConfiguration (files : String → Option String) (configuration : Configuration) :
    Except GatewayError Gateway := do
  match Backend.parse configuration.backendUrl with
  | .error cause => .error (.backend configuration.backendUrl cause)
  | .ok backend => do
    let description ← readDescription files configuration.description
    pure ⟨⟨configuration.settings, description.map (·.lookup)⟩, backend⟩

/-! ## Requests -/

/-- The request that the backend gets: the connection of the client is none of its business, and the
host is its own. -/
def forwarded (gateway : Gateway) (request : ClientRequest) : BackendRequest :=
  { method := request.method
    target := request.uri.pathAndQuery?.getD "/"
    headers := (request.headers.remove "connection").insert "host"
      (Bytes.ofString gateway.backend.authority)
    body := request.body }

/-! ## Responses -/

/-- A short text as a response. -/
def textResponse (status : Nat) (text : String) : GatewayResponse :=
  ⟨status, ⟨[("content-type", Bytes.ofString "text/plain; charset=utf-8")]⟩,
    .complete (Bytes.ofString text)⟩

/-- The response when the backend gives none that can be used. -/
def badGateway : GatewayResponse :=
  textResponse 502 "Bad gateway"

/-- The transport of a connection on which nothing can be pushed. -/
def noTransport : Transport Unit := fun _ _ =>
  pure (.error (.transport "no pushes on this connection"))

/-- Whether a response is processed. -/
def isProcessed (request : ClientRequest) (status : Nat) (headers : Headers) : Bool :=
  isEligibleRequest request.headers request.uri &&
    isEligibleResponse status headers request.headers

/-- The response for an answer of the backend, for a request that may have a handle. -/
def responseTo (gateway : Gateway) (request : ClientRequest) (handle : Option Push.Handle) :
    BackendAnswer → StateM (World Unit) GatewayResponse
  | .failed => pure badGateway
  | .received status headers body => do
    if isProcessed request status headers then
      let pusher := handle.map fun handle => Push.push noTransport handle.cycle
      match ← gateway.service.apply request.request pusher none body headers with
      | (.ok bytes, headers) => pure ⟨status, headers, .complete bytes⟩
      | (.error _, _) => pure badGateway
    else pure ⟨status, headers, .relayed body⟩

/-- Serves a request on a connection with the given ledger. The request has a handle only if it is
the follow-up of a push on the connection. -/
def respond (gateway : Gateway) (request : ClientRequest) (answer : BackendAnswer) :
    StateM (World Unit) GatewayResponse := do
  match (← get).ledger.handleFor request.headers request.uri false with
  | none => gateway.responseTo request none answer
  | some (handle, ledger) => do
    modify (World.update fun _ => ledger)
    let response ← gateway.responseTo request handle answer
    modify (World.update (·.release handle))
    pure response

/-- The state of a new connection. -/
def newConnection (gateway : Gateway) : World Unit :=
  ⟨.empty gateway.service.settings.maxPushes, ()⟩

end Gateway

end Hypermedia
