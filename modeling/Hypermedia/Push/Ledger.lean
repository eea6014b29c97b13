import Hypermedia.Header
import Hypermedia.Uri

/-!
# The push ledger of a connection

All requests of one connection share a ledger. It makes sure that a target is pushed at most once on
the connection, and it keeps track of the push cycles in progress. A cycle starts with a request of
the client, its origin. Each push of the cycle comes back as a follow-up request, which carries the
correlation identifier of the cycle and joins it; the push is complete when its follow-up is.

* `Ledger.openOrigin` and `Ledger.openFollowUp` give a request its handle, `Ledger.release` takes it
  back. `Ledger.finish?` releases the handle too, but may have to wait; `Ledger.poll?` is one more
  try.
* A push has two steps: `Ledger.reserve` enters it before the transport is called, and
  `Ledger.settle` deals with the answer of the transport.
-/

namespace Hypermedia.Push

/-! ## Counting targets -/

/-- How often each of some targets occurs, with no entry for any other target. -/
abbrev Tally := List (String × Nat)

namespace Tally

/-- The targets that occur. -/
def targets (tally : Tally) : List String :=
  tally.map (·.1)

/-- The sum of all counts. -/
def total (tally : Tally) : Nat :=
  (tally.map (·.2)).foldr (· + ·) 0

/-- Counts a target once more. -/
def increment (target : String) : Tally → Tally
  | [] => [(target, 1)]
  | (other, count) :: rest =>
    if other = target then (other, count + 1) :: rest
    else (other, count) :: increment target rest

/-- Counts a target once less. Its entry goes when the count becomes zero. -/
def decrement (target : String) : Tally → Tally
  | [] => []
  | (other, count) :: rest =>
    if other = target then
      if count - 1 = 0 then rest else (other, count - 1) :: rest
    else (other, count) :: decrement target rest

end Tally

/-! ## Cycles and handles -/

/-- Why a push was not made. -/
inductive PushError where
  /-- The target was pushed on this connection before. -/
  | alreadyPushed
  /-- The cycle has made all the pushes it may. -/
  | budgetExhausted (limit : Nat)
  /-- The transport failed. -/
  | transport (reason : String)
  deriving DecidableEq, Repr

/-- The message of an error. -/
def PushError.message : PushError → String
  | alreadyPushed => "relation already pushed"
  | budgetExhausted limit => "maximum number of pushes (" ++ toString limit ++ ") reached"
  | transport reason => "push failed: " ++ reason

/-- Cycles are numbered in the order they start. -/
abbrev CycleId := Nat

/-- The correlation identifier of a cycle, as its follow-ups carry it. -/
def correlation (id : CycleId) : String :=
  "push-cycle-" ++ toString id

/-- The field that carries the correlation identifier of a cycle. -/
def correlationField : String := "vulcain-internal"

/-- The state of a cycle. -/
structure Cycle where
  /-- How many of its pushes were made or are being made. -/
  pushes : Nat := 0
  /-- How often each target was pushed by pushes that are not complete. -/
  inFlight : Tally := []
  /-- The number of its pushes that are not complete. -/
  outstanding : Nat := 0
  deriving DecidableEq, Repr, Inhabited

namespace Cycle

/-- Enters a push. -/
def start (cycle : Cycle) (target : String) : Cycle :=
  ⟨cycle.pushes + 1, cycle.inFlight.increment target, cycle.outstanding + 1⟩

/-- Completes a push of the target, if one is in flight. -/
def complete (cycle : Cycle) (target : String) : Cycle :=
  if target ∈ cycle.inFlight.targets then
    { cycle with
      inFlight := cycle.inFlight.decrement target
      outstanding := cycle.outstanding - 1 }
  else cycle

/-- Takes a push back that was not made. -/
def undo (cycle : Cycle) (target : String) : Cycle :=
  let cycle := cycle.complete target
  { cycle with pushes := cycle.pushes - 1 }

end Cycle

/-- The part that a request has in its cycle. -/
inductive Role where
  /-- The request of the client. -/
  | origin
  /-- The follow-up of a push of the target. -/
  | followUp (target : String)
  deriving DecidableEq, Repr

/-- The access of a request to its cycle. -/
structure Handle where
  /-- The number of the handle; no two requests of a connection have the same. -/
  id : Nat
  /-- The cycle of the request. -/
  cycle : CycleId
  /-- The part of the request in it. -/
  role : Role
  deriving DecidableEq, Repr

/-- Whether the request of a handle is a follow-up. -/
def Handle.isFollowUp (handle : Handle) : Bool :=
  match handle.role with
  | .origin => false
  | .followUp _ => true

/-! ## The ledger -/

/-- What the requests of one connection share. -/
structure Ledger where
  /-- How many pushes a cycle may make; any number if there is no limit. -/
  maxPushes : Option Nat
  /-- The targets that were pushed. -/
  pushed : List String
  /-- The cycles whose origin has not been released. -/
  live : List CycleId
  /-- The state of each cycle. -/
  cycles : CycleId → Cycle
  /-- The number of cycles that were started. -/
  started : Nat
  /-- The number of handles that were given out. -/
  opened : Nat
  /-- The handles that were released. -/
  released : List Nat

namespace Ledger

/-- The ledger of a new connection. -/
def empty (maxPushes : Option Nat) : Ledger :=
  ⟨maxPushes, [], [], fun _ => {}, 0, 0, []⟩

instance : Inhabited Ledger := ⟨empty none⟩

/-- Whether the target was pushed on the connection. -/
def isPushed (ledger : Ledger) (target : String) : Bool :=
  ledger.pushed.contains target

/-- Whether no push of a cycle is outstanding. -/
def isIdle (ledger : Ledger) (id : CycleId) : Bool :=
  (ledger.cycles id).outstanding = 0

/-- Whether a handle was released. -/
def isReleased (ledger : Ledger) (handle : Handle) : Bool :=
  ledger.released.contains handle.id

/-- Changes the state of one cycle. -/
def updateCycle (ledger : Ledger) (id : CycleId) (change : Cycle → Cycle) : Ledger :=
  { ledger with cycles := fun other =>
      if other = id then change (ledger.cycles id) else ledger.cycles other }

/-! ## Opening and releasing -/

/-- Starts a cycle with a request of the client as its origin. -/
def openOrigin (ledger : Ledger) : Handle × Ledger :=
  (⟨ledger.opened, ledger.started, .origin⟩,
    { ledger with
      live := ledger.started :: ledger.live
      started := ledger.started + 1
      opened := ledger.opened + 1 })

/-- Lets a follow-up join the live cycle with the given correlation identifier, if there is one. -/
def openFollowUp (ledger : Ledger) (identifier target : String) : Option (Handle × Ledger) :=
  (ledger.live.find? (correlation · = identifier)).map fun id =>
    (⟨ledger.opened, id, .followUp target⟩, { ledger with opened := ledger.opened + 1 })

/-- The target that a follow-up asks for: its path and query, if it has any. -/
def targetOf (uri : Uri) : String :=
  (uri.pathAndQuery?).getD uri.path

/-- The handle of a request, if it has one. A request with a correlation identifier is a follow-up;
any other one starts a cycle if pushes are possible. -/
def handleFor (ledger : Ledger) (headers : Headers) (uri : Uri) (canPush : Bool) :
    Option (Handle × Ledger) :=
  match headers.get? correlationField with
  | none => if canPush then some ledger.openOrigin else none
  | some value =>
    (readable? value).bind fun identifier => ledger.openFollowUp identifier (targetOf uri)

/-- Releases a handle; this has an effect only once. The cycle ends with its origin, and a push is
complete with its follow-up. -/
def release (ledger : Ledger) (handle : Handle) : Ledger :=
  if ledger.isReleased handle then ledger
  else
    let ledger := { ledger with released := handle.id :: ledger.released }
    match handle.role with
    | .origin => { ledger with live := ledger.live.filter (· ≠ handle.cycle) }
    | .followUp target => ledger.updateCycle handle.cycle (·.complete target)

/-- One more try to end the wait of a request for the pushes of its cycle: the ledger after the
release of the handle, unless some push is outstanding. -/
def poll? (ledger : Ledger) (handle : Handle) : Option Ledger :=
  if ledger.isIdle handle.cycle then some (ledger.release handle) else none

/-- Finishes a request: the ledger after the release of its handle, unless the request has to wait.
Only the origin of a cycle waits, and only if it is to and was not released before. -/
def finish? (ledger : Ledger) (handle : Handle) (wait : Bool) : Option Ledger :=
  if wait && !handle.isFollowUp && !ledger.isReleased handle then ledger.poll? handle
  else some (ledger.release handle)

/-! ## Pushing -/

/-- Enters a push of the cycle, unless the target was pushed before or the cycle may not push any
more. -/
def reserve (ledger : Ledger) (id : CycleId) (target : String) : Except PushError Ledger :=
  if ledger.isPushed target then .error .alreadyPushed
  else
    let entered := { ledger with pushed := target :: ledger.pushed }.updateCycle id (·.start target)
    match ledger.maxPushes with
    | none => .ok entered
    | some limit =>
      if limit ≤ (ledger.cycles id).pushes then .error (.budgetExhausted limit) else .ok entered

/-- Forgets that a target was pushed. -/
def forget (ledger : Ledger) (target : String) : Ledger :=
  { ledger with pushed := ledger.pushed.filter (· ≠ target) }

/-- Deals with the answer of the transport to a push that was entered. A push that failed is taken
back, and its target may be pushed again unless the transport knows it as pushed. -/
def settle (ledger : Ledger) (id : CycleId) (target : String) :
    Except PushError Unit → Ledger
  | .ok () => ledger
  | .error .alreadyPushed => ledger.updateCycle id (·.undo target)
  | .error _ => (ledger.updateCycle id (·.undo target)).forget target

end Ledger

end Hypermedia.Push
