import Hypermedia.Eligibility
import Hypermedia.Json.Parser
import Hypermedia.Json.Printer
import Hypermedia.Pruning
import Hypermedia.Push.Transport
import Hypermedia.Relation
import Hypermedia.Settings

/-!
# Delivering a response

What happens to the response of an API before it goes to the client: the body is pruned to the
fields that were asked for, and the relations that were asked for are pushed, or else advertised by
links.

* `Service.apply` processes a response. A body that is no JSON stays as it is; only a body that
  cannot be read is an error.
* `Delivery.deliver` pushes one relation or returns the link that advertises it.
* `Delivery.forwardedHeaders` are the header fields of the request for a pushed relation.
-/

namespace Hypermedia

/-- A request: its target and its header fields. -/
structure Request where
  /-- The target. -/
  uri : Uri
  /-- The header fields. -/
  headers : Headers
  deriving DecidableEq, Repr

/-- How the responses of an API are processed. -/
structure Service where
  /-- The settings. -/
  settings : Settings
  /-- What is known of the routes of the API. -/
  routes : Option RouteLookup

/-- The reason why a body could not be read. -/
structure BodyError where
  /-- What the connection reported. -/
  reason : String
  deriving DecidableEq, Repr

/-- The message of a body that could not be read. -/
def BodyError.message (error : BodyError) : String :=
  "could not read response body: " ++ error.reason

namespace Delivery

open Push (Pusher)

/-! ## Header fields -/

/-- Puts the selections below a node into a directive that came from header fields. -/
def narrow (directives : Directives) (node : Node) (headers : Headers) (kind : Kind) : Headers :=
  if directives.isFromHeader kind then
    match (Directive.render? (node.subSelectors kind)).bind (fieldValue? ∘ Bytes.ofString) with
    | some value => headers.insert kind.name value
    | none => headers
  else headers

/-- The header fields of the request for a relation found at a node. Directives that came from
header fields are narrowed to the selections below the node; those that came from the query are in
the relation itself. -/
def forwardedHeaders (headers : Headers) (directives : Directives) (node : Node) : Headers :=
  Kind.all.foldl (narrow directives node)
    (((headers.remove "preload").remove "fields").remove "te")

/-- The header fields with the length of the body. -/
def withLength (headers : Headers) (length : Nat) : Headers :=
  (headers.remove "transfer-encoding").insert "content-length" (Bytes.ofString (toString length))

/-! ## Relations -/

/-- What has come of the relations of a response so far. -/
structure Progress (σ : Type) where
  /-- The links that advertise relations, without repetitions. -/
  links : List Bytes
  /-- Whether some relation was resolved. -/
  preloaded : Bool
  /-- The state of the connection. -/
  world : σ

variable {σ : Type}

/-- Runs an action of the connection. -/
def Progress.lift {α : Type} (action : StateM σ α) : StateM (Progress σ) α := fun progress =>
  let (a, world) := action.run progress.world
  (a, { progress with world := world })

/-- Whether a relation is never pushed. -/
def isNeverPushed (settings : Settings) (relation : Relation) : Bool :=
  settings.pushDisabled || !relation.sameOrigin

/-- The link that advertises a relation, if it can stand in a header field. -/
def linkOf? (settings : Settings) (relation : Relation) : Option Bytes :=
  fieldValue? (Bytes.ofString
    (relation.preloadLink settings.apiUrl (isNeverPushed settings relation)))

/-- Pushes a relation if that is possible; otherwise the link that advertises it. A relation that
was pushed before needs no link. -/
def deliver (settings : Settings) (pusher : Option (Pusher σ)) (headers : Headers)
    (relation : Relation) : StateM σ (Option Bytes) := do
  let link := linkOf? settings relation
  if isNeverPushed settings relation then pure link
  else
    match pusher with
    | none => pure link
    | some push => do
      match ← push relation.text headers with
      | .ok () => pure none
      | .error .alreadyPushed => pure none
      | .error _ => pure link

/-- Adds a link unless it is there. -/
def addLink (links : List Bytes) : Option Bytes → List Bytes
  | none => links
  | some link => if links.contains link then links else links ++ [link]

end Delivery

namespace Service

open Delivery Push

variable {σ : Type}

/-- Whether relations in the document are replaced. -/
def replaces (service : Service) (directives : Directives) : Bool :=
  service.settings.replacementPolicy.replaces directives.anyFromQuery

/-- What happens to a string that is asked for as a relation. Where relations are replaced, one that
cannot be resolved is blanked; one that the route lookup made is never replaced. -/
def visit (service : Service) (request : Request) (directives : Directives)
    (resolver : Resolver) (pusher : Option (Pusher σ)) (node : Node) (raw : String) :
    StateM (Progress σ) (Option String) := do
  let mayReplace := service.replaces directives
  match resolver.resolve node.pointer raw with
  | .error _ => pure (if mayReplace then some "" else none)
  | .ok relation => do
    let replaces := mayReplace && !relation.fromRouteLookup
    let relation := if replaces then relation.withDirectives node else relation
    let headers := forwardedHeaders request.headers directives node
    let link ← Progress.lift (deliver service.settings pusher headers relation)
    modify fun progress =>
      { progress with preloaded := true, links := addLink progress.links link }
    pure (if replaces then some relation.text else none)

/-- The header fields of a response whose body was processed. -/
def responseHeaders (directives : Directives) (preloaded : Bool) (links : List Bytes)
    (length : Nat) (headers : Headers) : Headers :=
  let headers :=
    if preloaded then headers.append "vary" (Bytes.ofString "preload") else headers
  let headers :=
    if directives.isFromHeader .fields then headers.append "vary" (Bytes.ofString "fields")
    else headers
  withLength (headers.appendAll "link" links) length

/-- Processes a response: its body, or why that could not be read, and its header fields. The pusher
is there if the request may push; `hint` sends the links of the response ahead of it, if the
connection can do that. -/
def apply (service : Service) (request : Request) (pusher : Option (Pusher σ))
    (hint : Option (List Bytes → StateM σ Unit)) (body : Except BodyError Bytes)
    (headers : Headers) : StateM σ (Except BodyError Bytes × Headers) := do
  match body with
  | .error error => pure (.error error, headers)
  | .ok received => do
    let unchanged := (Except.ok received, withLength headers received.length)
    let directives := Directives.ofRequest request.headers request.uri
    let tree := directives.tree
    if tree.isEmpty then pure unchanged
    else
      match Json.parseBytes? received with
      | none => pure unchanged
      | some document => do
        let resolver := Resolver.ofRequest service.routes request.uri
        let (transformed, progress) :=
          (transform tree (service.visit request directives resolver pusher) document).run
            ⟨[], false, ← get⟩
        set progress.world
        let body := transformed.renderBytes
        let headers :=
          responseHeaders directives progress.preloaded progress.links body.length headers
        match hint with
        | some send =>
          if service.settings.earlyHints && !progress.links.isEmpty then
            send (headers.getAll "link")
        | none => pure ()
        pure (.ok body, headers)

end Service

end Hypermedia
