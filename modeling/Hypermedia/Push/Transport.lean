import Hypermedia.Push.Ledger

/-!
# Pushing through a transport

* `World` is the ledger of a connection together with the state of its transport.
* A `Transport` sends pushes. It may act on the ledger while it does so, for instance by delivering
  the follow-up at once.
* `push` enters a push, calls the transport and settles the answer.
-/

namespace Hypermedia.Push

/-- A ledger and the state of a transport. -/
structure World (τ : Type) where
  /-- The ledger of the connection. -/
  ledger : Ledger
  /-- The state of the transport. -/
  transport : τ

/-- The outcome of a push. -/
abbrev Answer := Except PushError Unit

/-- What sends a push of a target, given the header fields of the request to push. -/
abbrev Pusher (σ : Type) := String → Headers → StateM σ Answer

/-- A transport whose state is a `τ`. -/
abbrev Transport (τ : Type) := Pusher (World τ)

/-- The header fields of a pushed request, with the correlation identifier of its cycle. -/
def withCorrelation (id : CycleId) (headers : Headers) : Headers :=
  headers.insert correlationField (Bytes.ofString (correlation id))

variable {τ : Type}

/-- Changes the ledger. -/
def World.update (change : Ledger → Ledger) (world : World τ) : World τ :=
  { world with ledger := change world.ledger }

/-- Pushes a target in a cycle through the transport. -/
def push (transport : Transport τ) (id : CycleId) : Transport τ := fun target headers => do
  match (← get).ledger.reserve id target with
  | .error error => pure (.error error)
  | .ok entered => do
    modify (World.update fun _ => entered)
    let answer ← transport target (withCorrelation id headers)
    modify (World.update fun ledger => ledger.settle id target answer)
    pure answer

end Hypermedia.Push
