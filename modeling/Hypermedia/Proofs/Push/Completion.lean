import Hypermedia.Proofs.Push.Handles
import Hypermedia.Proofs.Push.InFlight

/-!
# Pushes that are completed

A pushed request comes back with the correlation identifier of its cycle and joins the cycle. If it
asks for the target that was pushed, its release completes the push.

* `Ledger.handleFor_withCorrelation` is the handle of the request that comes back.
* `Ledger.Completes` is what the completion of a push changes, and
  `Ledger.Balanced.completes_release` says that the release of a follow-up does that.
* `Traffic.run_push` is the state right after a push, and `Traffic.joined_of_run` what becomes of a
  request that comes back in any run.
-/

namespace Hypermedia.Push

namespace Ledger

variable {ledger : Ledger}

/-! ## Opening -/

/-- A live cycle is found by its correlation identifier. -/
theorem find?_correlation {id : CycleId} (h : id ∈ ledger.live) :
    ledger.live.find? (correlation · = correlation id) = some id := by
  cases hfind : ledger.live.find? (correlation · = correlation id) with
  | none => exact absurd (List.find?_eq_none.mp hfind id h) (by simp)
  | some other =>
      have hsame := List.find?_some hfind
      rw [correlation_injective (of_decide_eq_true hsame)]

/-- A pushed request that comes back joins its cycle, as long as the cycle is live. -/
theorem handleFor_withCorrelation {id : CycleId} (h : id ∈ ledger.live) (headers : Headers)
    (uri : Uri) (canPush : Bool) :
    ledger.handleFor (withCorrelation id headers) uri canPush =
      some (⟨ledger.opened, id, .followUp (targetOf uri)⟩,
        { ledger with opened := ledger.opened + 1 }) := by
  unfold handleFor
  rw [get?_withCorrelation]
  dsimp only
  rw [readable?_correlation, Option.bind_some, openFollowUp, find?_correlation h, Option.map_some]

/-! ## Completing -/

/-- A ledger before and after the completion of a push of a target in a cycle. -/
structure Completes (before after : Ledger) (id : CycleId) (target : String) : Prop where
  /-- The push was in flight. -/
  entry : (target, 1) ∈ (before.cycles id).inFlight
  /-- Its entry is gone, and every other one is there. -/
  inFlight : (after.cycles id).inFlight = (before.cycles id).inFlight.filter (·.1 ≠ target)
  /-- One push less is outstanding. -/
  outstanding : (after.cycles id).outstanding + 1 = (before.cycles id).outstanding
  /-- The cycle has made as many pushes as before. -/
  pushes : (after.cycles id).pushes = (before.cycles id).pushes
  /-- The other cycles are as before. -/
  others : ∀ other, other ≠ id → after.cycles other = before.cycles other
  /-- The same targets count as pushed. -/
  pushed : after.pushed = before.pushed
  /-- The same cycles are live. -/
  live : after.live = before.live

/-- A target in flight has one entry, with the count one. -/
theorem Balanced.entry_of_mem (hb : ledger.Balanced) {id : CycleId} {target : String}
    (h : target ∈ ledger.inFlight id) : (target, 1) ∈ (ledger.cycles id).inFlight := by
  obtain ⟨⟨name, count⟩, hentry, rfl⟩ := List.mem_map.mp h
  have hone : count = 1 := (hb id).simple.count_eq_one _ hentry
  rwa [hone] at hentry

/-- The first release of a follow-up completes its push, if that is in flight. -/
theorem Balanced.completes_release (hb : ledger.Balanced) {handle : Handle} {target : String}
    (hrole : handle.role = .followUp target) (hfirst : ledger.isReleased handle = false)
    (h : target ∈ ledger.inFlight handle.cycle) :
    ledger.Completes (ledger.release handle) handle.cycle target := by
  have hcycles := release_cycles_of_followUp hrole hfirst
  have hself : (ledger.release handle).cycles handle.cycle =
      (ledger.cycles handle.cycle).complete target := by
    rw [hcycles, updateCycle_cycles, if_pos rfl]
  have hpos := (hb handle.cycle).pos_of_mem (hb.entry_of_mem h)
  have htargets : target ∈ (ledger.cycles handle.cycle).inFlight.targets := h
  refine ⟨hb.entry_of_mem h, ?_, ?_, ?_, fun other hother => ?_, release_pushed handle,
    release_live_of_followUp hrole⟩
  · rw [hself, Cycle.complete, if_pos htargets]
    exact (hb handle.cycle).simple.decrement_eq_filter
  · rw [hself, Cycle.complete, if_pos htargets]
    exact Nat.sub_add_cancel hpos.2
  · rw [hself, Cycle.complete_pushes]
  · rw [hcycles, updateCycle_cycles, if_neg hother]

/-- A request has joined a cycle as the follow-up of a push of a target. If such a push was in flight,
the release of the handle completes it. -/
structure Joined (before opened : Ledger) (followUp : Handle) (id : CycleId) (target : String) :
    Prop where
  /-- The cycle. -/
  cycle : followUp.cycle = id
  /-- The part of the request in it. -/
  role : followUp.role = .followUp target
  /-- What the release completes. -/
  completes : target ∈ before.inFlight id → opened.Completes (opened.release followUp) id target

end Ledger

/-! ## Runs -/

namespace Traffic

variable {maxPushes : Option Nat} {events : List Event} {handle : Handle} {target : String}
  {entered : Ledger}

/-- A push that is entered calls the transport. -/
theorem run_push (hhandle : handle ∈ (run maxPushes events).handles)
    (hreserve : (run maxPushes events).ledger.reserve handle.cycle target = .ok entered)
    (headers : Headers) :
    run maxPushes (events ++ [.push handle target headers]) =
      { run maxPushes events with
        ledger := entered
        calls := ⟨handle, target, withCorrelation handle.cycle headers, none⟩ ::
          (run maxPushes events).calls } := by
  rw [run_append_singleton, step, if_pos hhandle, hreserve]

/-- In any run, a request with the correlation identifier of a live cycle joins the cycle. At any later
time the first release of its handle completes the push of the target that the request asks for, if that
is in flight then. -/
theorem joined_of_run {id : CycleId} (hlive : id ∈ (run maxPushes events).ledger.live)
    (headers : Headers) (uri : Uri) (canPush : Bool) :
    ∃ followUp opened,
      (run maxPushes events).ledger.handleFor (withCorrelation id headers) uri canPush =
        some (followUp, opened) ∧
      (run maxPushes events).ledger.Joined opened followUp id (Ledger.targetOf uri) ∧
      ∀ more last,
        last = run maxPushes (events ++ .arrive (withCorrelation id headers) uri canPush :: more) →
        Ledger.targetOf uri ∈ last.ledger.inFlight id → last.ledger.isReleased followUp = false →
        last.ledger.Completes (last.ledger.release followUp) id (Ledger.targetOf uri) := by
  refine ⟨_, _, Ledger.handleFor_withCorrelation hlive headers uri canPush, ⟨rfl, rfl, ?_⟩, ?_⟩
  · intro hmem
    have hbalanced := (accounted_run maxPushes events).balanced
    refine Ledger.Balanced.completes_release (by exact hbalanced) rfl ?_ hmem
    exact (registered_run maxPushes events).not_isReleased_of_id_eq rfl
  · rintro more last rfl hmem hfirst
    exact (accounted_run maxPushes _).balanced.completes_release rfl hfirst hmem

end Traffic

end Hypermedia.Push
