import Hypermedia.Connection
import Hypermedia.Proofs.Delivery.Responses
import Hypermedia.Proofs.Description.Table
import Hypermedia.Proofs.Push.Continuation
import Hypermedia.Proofs.Push.InFlight

/-!
# Connections are traffic

Whatever happens to a connection, its ledger is that of some traffic. So what holds after any steps
of traffic holds of every connection.

* `Mirrors` relates traffic to a ledger and a transport: the ledger is the same, and the transport was
  asked for the calls, all of which it has answered.
* `Connection.Reachable` are the connections that the operations of a connection lead to, in any
  order.
* `Connection.Reachable.isTraffic` is the result, and `Connection.Reachable.accounted` is what it says
  about the accounts of a connection.
-/

namespace Hypermedia

open Push

/-! ## Pushes -/

/-- What the transport was asked for by a call. -/
def Push.Call.request (call : Call) : PushedRequest :=
  ⟨call.target, call.headers⟩

/-- Traffic has led to a ledger and a transport. -/
structure Mirrors (traffic : Traffic) (world : World Wire) : Prop where
  /-- The ledger. -/
  ledger : traffic.ledger = world.ledger
  /-- What the transport was asked for. -/
  log : world.transport.log = (traffic.calls.map Call.request).reverse
  /-- No call is in progress. -/
  answered : ∀ call ∈ traffic.calls, call.answer.isSome = true

/-- A follow-up that is over at once gets a handle, which is released. -/
theorem Wire.continues_loop (traffic : Traffic) (world : World Wire)
    (h : traffic.ledger = world.ledger) (target : String) (headers : Headers) :
    (Wire.loop target headers world).transport = world.transport ∧
    ∃ next, traffic.Continues next ∧ next.calls = traffic.calls ∧
      next.ledger = (Wire.loop target headers world).ledger := by
  unfold Wire.loop
  cases Uri.parse? target with
  | none => exact ⟨rfl, traffic, .refl traffic, rfl, h⟩
  | some uri =>
      dsimp only
      cases hopen : world.ledger.handleFor headers uri false with
      | none => exact ⟨rfl, traffic, .refl traffic, rfl, h⟩
      | some opened =>
          obtain ⟨handle, ledger⟩ := opened
          rw [← h] at hopen
          have hopened := Traffic.Continues.opened hopen
          exact ⟨rfl, _, hopened.trans (.released List.mem_cons_self), rfl, rfl⟩

/-- The transport notes what it is asked for, and may deliver its follow-up. -/
theorem Wire.continues_transport (traffic : Traffic) (world : World Wire)
    (h : traffic.ledger = world.ledger) (target : String) (headers : Headers) :
    ((Wire.transport target headers).run world).2.transport.log =
      world.transport.log ++ [⟨target, headers⟩] ∧
    ∃ next, traffic.Continues next ∧ next.calls = traffic.calls ∧
      next.ledger = ((Wire.transport target headers).run world).2.ledger := by
  obtain ⟨ledger, mode, log⟩ := world
  obtain ⟨htransport, hloop⟩ :=
    Wire.continues_loop traffic ⟨ledger, mode, log ++ [⟨target, headers⟩]⟩ h target headers
  cases mode with
  | loops => exact ⟨congrArg Wire.log htransport, hloop⟩
  | loopsAndRefuses => exact ⟨congrArg Wire.log htransport, hloop⟩
  | accepts | incapable | refuses | known | exhausted => exact ⟨rfl, traffic, .refl traffic, rfl, h⟩

/-- A push is entered, the transport is called, and its answer is settled. -/
theorem Mirrors.push {traffic : Traffic} {world : World Wire} (h : Mirrors traffic world)
    {handle : Handle} (hhandle : handle ∈ traffic.handles) (target : String) (headers : Headers) :
    ∃ next, traffic.Continues next ∧
      Mirrors next ((Push.push Wire.transport handle.cycle target headers).run world).2 := by
  rw [push_run]
  cases hreserve : world.ledger.reserve handle.cycle target with
  | error error => exact ⟨traffic, .refl traffic, h⟩
  | ok entered =>
      rw [← h.ledger] at hreserve
      obtain ⟨hlog, next, hcall, hcalls, hledger⟩ := Wire.continues_transport
        { traffic with
          ledger := entered
          calls := ⟨handle, target, withCorrelation handle.cycle headers, none⟩ :: traffic.calls }
        ⟨entered, world.transport⟩ rfl target (withCorrelation handle.cycle headers)
      dsimp only
      generalize (Wire.transport target (withCorrelation handle.cycle headers)).run
        ⟨entered, world.transport⟩ = outcome at hlog hledger
      obtain ⟨answer, called⟩ := outcome
      dsimp only at hlog hledger ⊢
      have hsettled := hcall.settled hhandle hreserve (hcalls.trans (List.nil_append _).symm) answer
      refine ⟨_, hsettled, ?_, ?_, fun call hmem => ?_⟩
      · rw [hledger]
      · rw [hlog, h.log]
        simp [Call.request]
      · rcases List.mem_cons.mp hmem with rfl | hold
        · rfl
        · exact h.answered call hold

/-! ## Connections -/

namespace Connection

/-- Traffic has led to a connection. -/
structure Simulates (traffic : Traffic) (connection : Connection) : Prop where
  /-- The ledger and the transport. -/
  mirrors : Mirrors traffic connection.world
  /-- The handles of requests were given out. -/
  handles : ∀ entry ∈ connection.handles, entry.2 ∈ traffic.handles
  /-- So were those of requests that wait. -/
  waiting : ∀ entry ∈ connection.waiting, entry.2 ∈ traffic.handles

/-- Some traffic leads to the connection. -/
def IsTraffic (connection : Connection) : Prop :=
  ∃ events, Simulates (Traffic.run connection.service.settings.maxPushes events) connection

/-- Entries that stay without those of a name were there. -/
theorem mem_of_mem_without {α : Type} {name : String} {entries : List (String × α)}
    {entry : String × α} (h : entry ∈ without name entries) : entry ∈ entries :=
  (List.mem_filter.mp h).1

namespace Simulates

variable {connection : Connection} {events : List Event}

/-- The handle of a name was given out. -/
theorem mem_of_handle? {traffic : Traffic} (h : Simulates traffic connection) {name : String}
    {handle : Handle} (hhandle : connection.handle? name = some handle) :
    handle ∈ traffic.handles :=
  h.handles _ (mem_of_lookup_eq_some hhandle)

/-- So was the handle of a request that waits. -/
theorem mem_of_waiting {traffic : Traffic} (h : Simulates traffic connection) {label : String}
    {handle : Handle} (hhandle : connection.waiting.get? label = some handle) :
    handle ∈ traffic.handles :=
  h.waiting _ (mem_of_lookup_eq_some hhandle)

/-- Steps that lead on from the traffic of a connection. -/
theorem continues
    (h : Simulates (Traffic.run connection.service.settings.maxPushes events) connection)
    {next : Traffic}
    (hnext : (Traffic.run connection.service.settings.maxPushes events).Continues next)
    {world : World Wire} (hmirrors : Mirrors next world) :
    IsTraffic { connection with world := world } := by
  obtain ⟨more, rfl⟩ := hnext.exists_run
  exact ⟨more, hmirrors, fun entry hentry => hnext.handles (h.handles entry hentry),
    fun entry hentry => hnext.handles (h.waiting entry hentry)⟩

/-- The release of a handle that was given out. -/
theorem release
    (h : Simulates (Traffic.run connection.service.settings.maxPushes events) connection)
    {handle : Handle}
    (hhandle : handle ∈ (Traffic.run connection.service.settings.maxPushes events).handles) :
    IsTraffic (connection.release handle) :=
  h.continues (.released hhandle)
    ⟨congrArg (·.release handle) h.mirrors.ledger, h.mirrors.log, h.mirrors.answered⟩

/-- The release of a handle that was given out, if nothing holds it. -/
theorem releaseUnheld? (events : List Event)
    (h : Simulates (Traffic.run connection.service.settings.maxPushes events) connection)
    {former : Option Handle}
    (hformer : ∀ handle ∈ former,
      handle ∈ (Traffic.run connection.service.settings.maxPushes events).handles) :
    IsTraffic (connection.releaseUnheld? former) := by
  cases former with
  | none => exact ⟨events, h⟩
  | some handle =>
      unfold Connection.releaseUnheld?
      rw [Option.map_some, Option.getD_some]
      unfold releaseUnheld
      dsimp only
      split_ifs
      · exact ⟨events, h⟩
      · exact h.release (hformer handle rfl)

end Simulates

namespace IsTraffic

variable {connection : Connection}

/-- A new connection. -/
theorem start (service : Service) : IsTraffic (start service) := by
  refine ⟨[], ⟨rfl, rfl, ?_⟩, ?_, ?_⟩
  · intro call h
    cases h
  · intro entry h
    cases h
  · intro entry h
    cases h

/-- The transport answers in another way. -/
theorem withMode (h : IsTraffic connection) (mode : TransportMode) :
    IsTraffic (connection.withMode mode) := by
  obtain ⟨events, h⟩ := h
  exact ⟨events, ⟨h.mirrors.ledger, h.mirrors.log, h.mirrors.answered⟩, h.handles, h.waiting⟩

/-- A request is opened, and may get a handle. -/
theorem openRequest (h : IsTraffic connection) (name : String) (request : Request)
    (offersTransport : Bool) :
    IsTraffic (connection.openRequest name request offersTransport).2 := by
  obtain ⟨events, h⟩ := h
  have hothers : ∀ entry ∈ without name connection.handles,
      entry.2 ∈ (Traffic.run connection.service.settings.maxPushes events).handles :=
    fun entry hentry => h.handles entry (mem_of_mem_without hentry)
  unfold Connection.openRequest
  dsimp only
  cases hopen : connection.ledger.handleFor request.headers request.uri
      (offersTransport && connection.world.transport.isCapable) with
  | none =>
      dsimp only [Option.map_none, Option.getD_none, Option.toList_none, List.nil_append]
      refine Simulates.releaseUnheld? events ?_ fun _ => h.mem_of_handle?
      exact ⟨h.mirrors, hothers, h.waiting⟩
  | some opened =>
      obtain ⟨handle, ledger⟩ := opened
      unfold Connection.ledger at hopen
      rw [← h.mirrors.ledger] at hopen
      have hnext := Traffic.Continues.opened hopen
      obtain ⟨more, hmore⟩ := hnext.exists_run
      refine Simulates.releaseUnheld? more ?_ fun former hformer => ?_
      · rw [← hmore]
        refine ⟨⟨rfl, h.mirrors.log, h.mirrors.answered⟩, fun entry hentry => ?_,
          fun entry hentry => hnext.handles (h.waiting entry hentry)⟩
        rcases List.mem_cons.mp hentry with rfl | hold
        · exact List.mem_cons_self
        · exact hnext.handles (hothers entry hold)
      · rw [← hmore]
        exact hnext.handles (h.mem_of_handle? hformer)

/-- A target is pushed through the handle of a request. -/
theorem push (h : IsTraffic connection) {name : String} {handle : Handle}
    (hhandle : connection.handle? name = some handle) (target : String) (headers : Headers) :
    IsTraffic (connection.push handle target headers).2 := by
  obtain ⟨events, h⟩ := h
  obtain ⟨next, hnext, hmirrors⟩ := h.mirrors.push (h.mem_of_handle? hhandle) target headers
  exact h.continues hnext hmirrors

/-- A response is processed. -/
theorem apply (h : IsTraffic connection) (name : String) (request : Request) (offersHints : Bool)
    (body : Except BodyError Bytes) (headers : Headers) :
    IsTraffic (connection.apply name request offersHints body headers).2 := by
  refine Service.apply_preserves connection.service request
    (P := fun state : World Wire × List (List Bytes) =>
      IsTraffic { connection with world := state.1 }) ?_ ?_ body headers h
  · intro push hpush target fields state hstate
    obtain ⟨handle, hhandle, rfl⟩ := Option.map_eq_some_iff.mp hpush
    exact IsTraffic.push hstate hhandle target fields
  · intro send hsend links state hstate
    cases offersHints with
    | false => cases hsend
    | true =>
        obtain rfl := Option.some.inj hsend
        exact hstate

/-- A request finishes, or begins to wait for that. -/
theorem finish (h : IsTraffic connection) {name : String} {handle : Handle}
    (hhandle : connection.handle? name = some handle) (wait : Bool) (label : String) :
    IsTraffic (connection.finish handle wait label).2 := by
  obtain ⟨events, h⟩ := h
  have hgiven := h.mem_of_handle? hhandle
  unfold Connection.finish
  cases hfinish : connection.ledger.finish? handle wait with
  | some ledger =>
      rw [Ledger.finish?_eq_some hfinish]
      exact h.release hgiven
  | none =>
      dsimp only
      refine Simulates.releaseUnheld? events ?_ fun _ => h.mem_of_waiting
      refine ⟨h.mirrors, h.handles, fun entry hentry => ?_⟩
      rcases Table.mem_insert hentry with rfl | hold
      · exact hgiven
      · exact h.waiting entry hold

/-- A wait is given up. -/
theorem cancel (h : IsTraffic connection) (label : String) :
    IsTraffic (connection.cancel label).2 := by
  obtain ⟨events, h⟩ := h
  unfold Connection.cancel
  dsimp only
  refine Simulates.releaseUnheld? events ?_ fun _ => h.mem_of_waiting
  exact ⟨h.mirrors, h.handles, fun entry hentry => h.waiting entry (mem_of_mem_without hentry)⟩

/-- The handle of a request is dropped. -/
theorem drop (h : IsTraffic connection) (name : String) : IsTraffic (connection.drop name).2 := by
  obtain ⟨events, h⟩ := h
  unfold Connection.drop
  dsimp only
  refine Simulates.releaseUnheld? events ?_ fun _ => h.mem_of_handle?
  exact ⟨h.mirrors, fun entry hentry => h.handles entry (mem_of_mem_without hentry), h.waiting⟩

/-- Some waits are tried again. -/
theorem wakeEach (h : IsTraffic connection) (labels : List String) :
    IsTraffic (connection.wakeEach labels).2 := by
  induction labels generalizing connection with
  | nil => exact h
  | cons label rest ih =>
      unfold Connection.wakeEach
      cases hwaiting : connection.waiting.get? label with
      | none => exact ih h
      | some handle =>
          dsimp only
          cases hpoll : connection.ledger.poll? handle with
          | none => exact ih h
          | some ledger =>
              refine ih ?_
              obtain ⟨events, h⟩ := h
              rw [(Ledger.poll?_eq_some hpoll).2]
              obtain ⟨more, hmore⟩ := h.release (h.mem_of_waiting hwaiting)
              exact ⟨more, hmore.mirrors, hmore.handles,
                fun entry hentry => hmore.waiting entry (mem_of_mem_without hentry)⟩

/-- All waits that are over end. -/
theorem wakeRounds (rounds : Nat) (h : IsTraffic connection) :
    IsTraffic (wakeRounds rounds connection).2 := by
  induction rounds generalizing connection with
  | zero => exact h
  | succ rounds ih =>
      unfold Connection.wakeRounds
      have hfirst := h.wakeEach (connection.waiting.map (·.1))
      generalize connection.wakeEach (connection.waiting.map (·.1)) = outcome at hfirst
      obtain ⟨_ | ⟨label, labels⟩, next⟩ := outcome
      · exact hfirst
      · exact ih hfirst

end IsTraffic

/-- The connections that operations lead to. Requests push and finish through their handles. -/
inductive Reachable (service : Service) : Connection → Prop where
  /-- A new connection. -/
  | start : Reachable service (start service)
  /-- The transport answers in another way. -/
  | withMode {connection : Connection} (h : Reachable service connection) (mode : TransportMode) :
      Reachable service (connection.withMode mode)
  /-- A request is opened. -/
  | openRequest {connection : Connection} (h : Reachable service connection) (name : String)
      (request : Request) (offersTransport : Bool) :
      Reachable service (connection.openRequest name request offersTransport).2
  /-- A target is pushed. -/
  | push {connection : Connection} (h : Reachable service connection) {name : String}
      {handle : Handle} (hhandle : connection.handle? name = some handle) (target : String)
      (headers : Headers) : Reachable service (connection.push handle target headers).2
  /-- A response is processed. -/
  | apply {connection : Connection} (h : Reachable service connection) (name : String)
      (request : Request) (offersHints : Bool) (body : Except BodyError Bytes) (headers : Headers) :
      Reachable service (connection.apply name request offersHints body headers).2
  /-- A request finishes. -/
  | finish {connection : Connection} (h : Reachable service connection) {name : String}
      {handle : Handle} (hhandle : connection.handle? name = some handle) (wait : Bool)
      (label : String) : Reachable service (connection.finish handle wait label).2
  /-- A wait is given up. -/
  | cancel {connection : Connection} (h : Reachable service connection) (label : String) :
      Reachable service (connection.cancel label).2
  /-- A handle is dropped. -/
  | drop {connection : Connection} (h : Reachable service connection) (name : String) :
      Reachable service (connection.drop name).2
  /-- The waits that are over end. -/
  | wake {connection : Connection} (h : Reachable service connection) :
      Reachable service connection.wake.2

namespace Reachable

variable {service : Service} {connection : Connection}

/-- Operations lead from traffic to traffic. -/
theorem isTraffic (h : Reachable service connection) : IsTraffic connection := by
  induction h with
  | start => exact .start service
  | withMode _ mode ih => exact ih.withMode mode
  | openRequest _ name request offersTransport ih =>
      exact ih.openRequest name request offersTransport
  | push _ hhandle target headers ih => exact ih.push hhandle target headers
  | apply _ name request offersHints body headers ih =>
      exact ih.apply name request offersHints body headers
  | finish _ hhandle wait label ih => exact ih.finish hhandle wait label
  | cancel _ label ih => exact ih.cancel label
  | drop _ name ih => exact ih.drop name
  | wake _ ih => exact ih.wakeRounds _

/-- The accounts of a connection agree with what its transport was asked for. -/
theorem accounted (h : Reachable service connection) :
    ∃ calls, Accounted connection.ledger calls ∧
      connection.log = (calls.map Call.request).reverse ∧
      ∀ call ∈ calls, call.answer.isSome = true := by
  obtain ⟨events, h⟩ := h.isTraffic
  refine ⟨_, ?_, h.mirrors.log, h.mirrors.answered⟩
  unfold Connection.ledger
  rw [← h.mirrors.ledger]
  exact Traffic.accounted_run _ events

end Reachable

end Connection

end Hypermedia
