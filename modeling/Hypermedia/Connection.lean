import Hypermedia.Delivery
import Hypermedia.Description.Basic

/-!
# Connections

One connection, with the requests on it, its ledger and a transport whose behaviour can be chosen.
Requests have names; a request that may push has a handle, and the handle is released when nothing
holds it any more.

* `Connection.openRequest`, `Connection.push`, `Connection.apply`, `Connection.finish` and
  `Connection.drop` are what happens to a request.
* A request that finishes may wait for the pushes of its cycle. `Connection.wake` ends the waits
  that have nothing to wait for.
-/

namespace Hypermedia

open Push

/-! ## The transport -/

/-- How a transport answers. -/
inductive TransportMode where
  /-- Every push is made. -/
  | accepts
  /-- No new cycle may push; pushes are made. -/
  | incapable
  /-- Every push fails. -/
  | refuses
  /-- Every target is known as pushed. -/
  | known
  /-- Every push fails because there were too many. -/
  | exhausted
  /-- Every push is made, and its follow-up is over before the push returns. -/
  | loops
  /-- The follow-up of every push is over before the push fails. -/
  | loopsAndRefuses
  deriving DecidableEq, Repr

/-- The request for a pushed target. -/
structure PushedRequest where
  /-- The target. -/
  target : String
  /-- The header fields. -/
  headers : Headers
  deriving DecidableEq, Repr

/-- The state of a transport: how it answers, and the pushes it was asked for. -/
structure Wire where
  /-- How it answers. -/
  mode : TransportMode
  /-- The pushes, in order. -/
  log : List PushedRequest

namespace Wire

/-- The number that a transport gives as its limit. -/
def limit : Nat := 77

/-- The failure of a transport. -/
def failure : PushError := .transport "refused stream"

/-- Whether new cycles may push. -/
def isCapable (wire : Wire) : Bool :=
  wire.mode ≠ .incapable

/-- Delivers the follow-up of a push, which is over at once. -/
def loop (target : String) (headers : Headers) (world : World Wire) : World Wire :=
  match Uri.parse? target with
  | none => world
  | some uri =>
    match world.ledger.handleFor headers uri false with
    | none => world
    | some (handle, ledger) => { world with ledger := ledger.release handle }

/-- The transport. -/
def transport : Transport Wire := fun target headers => do
  modify fun world =>
    { world with transport :=
        { world.transport with log := world.transport.log ++ [⟨target, headers⟩] } }
  match (← get).transport.mode with
  | .accepts => pure (.ok ())
  | .incapable => pure (.ok ())
  | .refuses => pure (.error failure)
  | .known => pure (.error .alreadyPushed)
  | .exhausted => pure (.error (.budgetExhausted limit))
  | .loops => do
    modify (loop target headers)
    pure (.ok ())
  | .loopsAndRefuses => do
    modify (loop target headers)
    pure (.error failure)

end Wire

/-! ## Connections -/

/-- A connection. -/
structure Connection where
  /-- How responses are processed. -/
  service : Service
  /-- The ledger and the transport. -/
  world : World Wire
  /-- The requests, by name. -/
  requests : List (String × Request)
  /-- The handles of requests, by name. -/
  handles : List (String × Handle)
  /-- The handles of requests that wait for their cycle, by label. -/
  waiting : Table Handle

namespace Connection

/-- A new connection. -/
def start (service : Service) : Connection :=
  ⟨service, ⟨.empty service.settings.maxPushes, ⟨.accepts, []⟩⟩, [], [], []⟩

/-- The ledger of the connection. -/
def ledger (connection : Connection) : Ledger :=
  connection.world.ledger

/-- The pushes that the transport was asked for. -/
def log (connection : Connection) : List PushedRequest :=
  connection.world.transport.log

/-- Chooses how the transport answers. -/
def withMode (connection : Connection) (mode : TransportMode) : Connection :=
  { connection with world :=
      { connection.world with transport := { connection.world.transport with mode := mode } } }

/-- The request of a name. -/
def request? (connection : Connection) (name : String) : Option Request :=
  connection.requests.lookup name

/-- The handle of a request. -/
def handle? (connection : Connection) (name : String) : Option Handle :=
  connection.handles.lookup name

/-- The entries but for those of a name. -/
def without {α : Type} (name : String) (entries : List (String × α)) : List (String × α) :=
  entries.filter (·.1 ≠ name)

/-- Releases a handle. -/
def release (connection : Connection) (handle : Handle) : Connection :=
  { connection with world := connection.world.update (·.release handle) }

/-- Releases a handle if nothing holds it. -/
def releaseUnheld (connection : Connection) (handle : Handle) : Connection :=
  let holds (entry : String × Handle) : Bool := entry.2.id = handle.id
  if connection.handles.any holds || connection.waiting.any holds then connection
  else connection.release handle

/-- Releases a handle, if there is one, that nothing holds. -/
def releaseUnheld? (connection : Connection) (handle : Option Handle) : Connection :=
  (handle.map connection.releaseUnheld).getD connection

/-! ## Requests -/

/-- Opens a request under a name. Its handle, if it has one, takes the place of the one before. -/
def openRequest (connection : Connection) (name : String) (request : Request)
    (offersTransport : Bool) : Option Handle × Connection :=
  let canPush := offersTransport && connection.world.transport.isCapable
  let opened := connection.ledger.handleFor request.headers request.uri canPush
  let former := connection.handle? name
  let ledger := (opened.map (·.2)).getD connection.ledger
  let handle := opened.map (·.1)
  let connection :=
    { connection with
      world := { connection.world with ledger := ledger }
      requests := (name, request) :: without name connection.requests
      handles := (handle.map (name, ·)).toList ++ without name connection.handles }
  (handle, connection.releaseUnheld? former)

/-- Pushes a target in the cycle of a handle. -/
def push (connection : Connection) (handle : Handle) (target : String) (headers : Headers) :
    Answer × Connection :=
  let (answer, world) := (Push.push Wire.transport handle.cycle target headers).run connection.world
  (answer, { connection with world := world })

/-- The outcome of processing a response. -/
structure Applied where
  /-- The body, or why it could not be read. -/
  body : Except BodyError Bytes
  /-- The header fields. -/
  headers : Headers
  /-- The links that were sent ahead, for each time that was done. -/
  hints : List (List Bytes)

/-- Processes the response to a request. -/
def apply (connection : Connection) (name : String) (request : Request)
    (offersHints : Bool) (body : Except BodyError Bytes) (headers : Headers) :
    Applied × Connection :=
  let onWorld {α : Type} (action : StateM (World Wire) α) :
      StateM (World Wire × List (List Bytes)) α := fun (world, hints) =>
    let (a, world) := action.run world
    (a, world, hints)
  let pusher := (connection.handle? name).map fun handle target headers =>
    onWorld (Push.push Wire.transport handle.cycle target headers)
  let hint := if offersHints then
      some fun links => modify fun (world, hints) => (world, hints ++ [links])
    else none
  let ((body, headers), world, hints) :=
    (connection.service.apply request pusher hint body headers).run (connection.world, [])
  (⟨body, headers, hints⟩, { connection with world := world })

/-! ## Finishing -/

/-- The connection with another ledger. -/
def withLedger (connection : Connection) (ledger : Ledger) : Connection :=
  { connection with world := { connection.world with ledger := ledger } }

/-- Finishes a request: releases its handle, at once or, if it is the origin of its cycle and is to
wait, when all pushes of the cycle are complete. Says whether that has happened; if not, the wait
goes on under a label. -/
def finish (connection : Connection) (handle : Handle) (wait : Bool) (label : String) :
    Bool × Connection :=
  match connection.ledger.finish? handle wait with
  | some ledger => (true, connection.withLedger ledger)
  | none =>
    let former := connection.waiting.get? label
    let connection := { connection with waiting := connection.waiting.insert label handle }
    (false, connection.releaseUnheld? former)

/-- Gives up a wait; says whether there was one. -/
def cancel (connection : Connection) (label : String) : Bool × Connection :=
  let former := connection.waiting.get? label
  let connection := { connection with waiting := without label connection.waiting }
  (former.isSome, connection.releaseUnheld? former)

/-- Drops the handle of a request; says whether there was one. -/
def drop (connection : Connection) (name : String) : Bool × Connection :=
  let former := connection.handle? name
  let connection := { connection with handles := without name connection.handles }
  (former.isSome, connection.releaseUnheld? former)

/-- Ends the waits of the given labels that are over, in order; returns the labels of those. -/
def wakeEach (connection : Connection) : List String → List String × Connection
  | [] => ([], connection)
  | label :: rest =>
    match connection.waiting.get? label with
    | none => connection.wakeEach rest
    | some handle =>
      match connection.ledger.poll? handle with
      | none => connection.wakeEach rest
      | some ledger =>
        let connection := { connection.withLedger ledger with
          waiting := without label connection.waiting }
        let (more, connection) := connection.wakeEach rest
        (label :: more, connection)

/-- Ends waits that are over, until none is; at most `rounds` times. -/
def wakeRounds : Nat → Connection → List String × Connection
  | 0, connection => ([], connection)
  | rounds + 1, connection =>
    match connection.wakeEach (connection.waiting.map (·.1)) with
    | ([], connection) => ([], connection)
    | (found, connection) =>
      let (more, connection) := wakeRounds rounds connection
      (found ++ more, connection)

/-- Ends all waits that are over; returns their labels. -/
def wake (connection : Connection) : List String × Connection :=
  wakeRounds (connection.waiting.length + 1) connection

end Connection

end Hypermedia
