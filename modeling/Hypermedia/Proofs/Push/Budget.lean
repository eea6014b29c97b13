import Hypermedia.Proofs.Push.InFlight

/-!
# The budget of a cycle

A cycle may make a limited number of pushes. It counts a push when the push is entered, before the
transport is called, and takes it back when a failure is dealt with. So what it has counted are the
pushes that the transport accepted and those that are in the transport, through whichever handles
of the cycle they were made.

* `Traffic.accepted` and `Traffic.inTransport` are these two numbers, read off the calls.
* `Ledger.WithinBudget` is the invariant, and `Ledger.reserve_eq_budgetExhausted` says when the
  ledger refuses a push because of the budget.
* `Traffic.pushes_within_budget` puts them together for every state of a connection.
-/

namespace Hypermedia.Push

/-! ## Ledgers -/

namespace Ledger

variable {ledger ledger' : Ledger}

/-- No cycle has counted more pushes than it may make. -/
def WithinBudget (ledger : Ledger) : Prop :=
  ∀ limit, ledger.maxPushes = some limit → ∀ id, (ledger.cycles id).pushes ≤ limit

/-- Where no cycle counts more pushes than before, the budget is kept. -/
theorem WithinBudget.of_pushes_le (h : ledger.WithinBudget)
    (hlimit : ledger'.maxPushes = ledger.maxPushes)
    (hpushes : ∀ id, (ledger'.cycles id).pushes ≤ (ledger.cycles id).pushes) :
    ledger'.WithinBudget := by
  intro limit hsome id
  have hold : (ledger.cycles id).pushes ≤ limit := h limit (hlimit ▸ hsome) id
  exact Nat.le_trans (hpushes id) hold

/-- A push that is entered was still within the budget. -/
theorem WithinBudget.reserve (h : ledger.WithinBudget) {id : CycleId} {target : String}
    (hreserve : ledger.reserve id target = .ok ledger') : ledger'.WithinBudget := by
  obtain ⟨-, hfree, rfl⟩ := reserve_eq_ok hreserve
  intro limit hsome other
  have hlimit : ledger.maxPushes = some limit := hsome
  rw [updateCycle_cycles]
  by_cases hid : other = id
  · rw [if_pos hid, Cycle.start_pushes]
    exact hfree limit hlimit
  · rw [if_neg hid]
    exact h limit hlimit other

/-- The answer of a transport does not raise the number of pushes of a cycle. -/
theorem settle_pushes_le (id other : CycleId) (target : String) (answer : Answer) :
    ((ledger.settle id target answer).cycles other).pushes ≤ (ledger.cycles other).pushes := by
  rw [settle_cycles]
  split
  · exact Nat.le_refl _
  · rw [updateCycle_cycles]
    by_cases hid : other = id
    · rw [if_pos hid, Cycle.undo_pushes, hid]
      exact Nat.sub_le _ _
    · exact Nat.le_of_eq (congrArg Cycle.pushes (if_neg hid))

/-- The release of a handle leaves the number of pushes of every cycle as it is. -/
theorem release_pushes (handle : Handle) (id : CycleId) :
    ((ledger.release handle).cycles id).pushes = (ledger.cycles id).pushes := by
  rcases ledger.release_cycles handle id with heq | ⟨target, heq⟩
  · rw [heq]
  · rw [heq, Cycle.complete_pushes]

/-- The ledger refuses a push because of the budget exactly if the target was not pushed before and
the cycle has counted all the pushes it may make. -/
theorem reserve_eq_budgetExhausted {id : CycleId} {target : String} {limit : Nat} :
    ledger.reserve id target = .error (.budgetExhausted limit) ↔
      ledger.maxPushes = some limit ∧ target ∉ ledger.pushed ∧
        limit ≤ (ledger.cycles id).pushes := by
  have hpushed : ledger.isPushed target = true ↔ target ∈ ledger.pushed := List.contains_iff_mem
  rw [← hpushed]
  unfold reserve
  by_cases h : ledger.isPushed target = true
  · simp [h]
  · rw [if_neg h]
    cases ledger.maxPushes with
    | none => simp
    | some bound =>
        have hnew : ¬ledger.isPushed target = true := h
        simp only [Option.some.injEq]
        by_cases hle : bound ≤ (ledger.cycles id).pushes
        · rw [if_pos hle, Except.error.injEq, PushError.budgetExhausted.injEq]
          constructor
          · rintro rfl
            exact ⟨rfl, hnew, hle⟩
          · exact And.left
        · rw [if_neg hle]
          constructor
          · intro hok
            cases hok
          · rintro ⟨rfl, -, hfull⟩
            exact absurd hfull hle

end Ledger

/-! ## Runs -/

namespace Traffic

/-- The number of pushes of a cycle that the transport accepted. -/
def accepted (traffic : Traffic) (id : CycleId) : Nat :=
  traffic.calls.countP fun call => call.cycle = id && call.answer.any (·.isMade)

/-- The number of pushes of a cycle that are in the transport. A push whose failure has not been
dealt with counts as one of them. -/
def inTransport (traffic : Traffic) (id : CycleId) : Nat :=
  traffic.calls.countP fun call => call.cycle = id && call.answer.isNone

/-- A push that was made or is being made was accepted or is in the transport, and not both. -/
theorem countP_isLive (calls : List Call) (id : CycleId) :
    calls.countP (fun call => call.cycle = id ∧ call.isLive = true) =
      calls.countP (fun call => call.cycle = id && call.answer.any (·.isMade)) +
        calls.countP fun call => call.cycle = id && call.answer.isNone := by
  rw [List.countP_eq_countP_filter_add calls _ fun call => call.answer.isSome,
    List.countP_filter, List.countP_filter]
  congr 1
  · apply List.countP_congr
    intro call _
    cases hanswer : call.answer with
    | none => simp
    | some answer => simp [Call.isLive, hanswer]
  · apply List.countP_congr
    intro call _
    cases hanswer : call.answer with
    | none => simp [Call.isLive, hanswer]
    | some answer => simp

/-- No step changes how many pushes a cycle may make. -/
theorem maxPushes_run (maxPushes : Option Nat) (events : List Event) :
    (run maxPushes events).ledger.maxPushes = maxPushes := by
  refine run_induction (P := fun traffic => traffic.ledger.maxPushes = maxPushes) rfl ?_ events
  intro traffic event h
  have hstep := traffic.step_cases event
  generalize traffic.step event = next at hstep
  cases hstep with
  | idle => exact h
  | opened headers uri canPush handle ledger hopen =>
      obtain ⟨-, -, hlimit, -, -, -⟩ := Ledger.handleFor_accounts hopen
      exact hlimit.trans h
  | called handle target headers ledger hhandle hreserve =>
      obtain ⟨-, -, rfl⟩ := Ledger.reserve_eq_ok hreserve
      exact h
  | answered place answer later earlier call hplace hcalls hpending =>
      exact (Ledger.settle_maxPushes ..).trans h
  | released event handle waiting hhandle hwaiting =>
      exact (Ledger.release_maxPushes handle).trans h

/-- Each step keeps every cycle within its budget. -/
theorem withinBudget_step {traffic : Traffic} (event : Event)
    (h : traffic.ledger.WithinBudget) : (traffic.step event).ledger.WithinBudget := by
  have hstep := traffic.step_cases event
  generalize traffic.step event = next at hstep
  cases hstep with
  | idle => exact h
  | opened headers uri canPush handle ledger hopen =>
      obtain ⟨-, -, hlimit, -, hcycles, -⟩ := Ledger.handleFor_accounts hopen
      exact h.of_pushes_le hlimit fun id => hcycles ▸ Nat.le_refl _
  | called handle target headers ledger hhandle hreserve => exact h.reserve hreserve
  | answered place answer later earlier call hplace hcalls hpending =>
      exact h.of_pushes_le (Ledger.settle_maxPushes ..) fun id => Ledger.settle_pushes_le ..
  | released event handle waiting hhandle hwaiting =>
      exact h.of_pushes_le (Ledger.release_maxPushes handle) fun id =>
        Nat.le_of_eq (Ledger.release_pushes handle id)

/-- In every state of a connection, every cycle is within its budget. -/
theorem withinBudget_run (maxPushes : Option Nat) (events : List Event) :
    (run maxPushes events).ledger.WithinBudget := by
  refine run_induction (P := fun traffic => traffic.ledger.WithinBudget) ?_
    (fun _ event h => withinBudget_step event h) events
  intro limit _ id
  exact Nat.zero_le limit

/-- In every state of a connection, a cycle has counted the pushes that were accepted and those
that are in the transport. -/
theorem pushes_run (maxPushes : Option Nat) (events : List Event) (id : CycleId) :
    ((run maxPushes events).ledger.cycles id).pushes =
      (run maxPushes events).accepted id + (run maxPushes events).inTransport id := by
  rw [(accounted_run maxPushes events).pushes_eq id]
  exact countP_isLive _ id

/-- **The budget of a cycle.** After any steps on a connection, a cycle has counted its pushes that
were accepted and those that are in the transport. These are never more than it may make. And the
ledger refuses a push because of the budget exactly if its target does not count as pushed and as
many pushes as the cycle may make were accepted or are in the transport. -/
theorem pushes_within_budget (maxPushes : Option Nat) (events : List Event) (id : CycleId) :
    ((run maxPushes events).ledger.cycles id).pushes =
      (run maxPushes events).accepted id + (run maxPushes events).inTransport id ∧
    (∀ limit, maxPushes = some limit →
      (run maxPushes events).accepted id + (run maxPushes events).inTransport id ≤ limit) ∧
    ∀ target limit,
      (run maxPushes events).ledger.reserve id target = .error (.budgetExhausted limit) ↔
        maxPushes = some limit ∧ (run maxPushes events).ledger.isPushed target = false ∧
          (run maxPushes events).accepted id + (run maxPushes events).inTransport id = limit := by
  have hlimit := maxPushes_run maxPushes events
  have hcount := pushes_run maxPushes events id
  have hbound : ∀ limit, maxPushes = some limit →
      (run maxPushes events).accepted id + (run maxPushes events).inTransport id ≤ limit := by
    intro limit hsome
    rw [← hcount]
    exact withinBudget_run maxPushes events limit (hlimit.trans hsome) id
  refine ⟨hcount, hbound, fun target limit => ?_⟩
  have hpushed : (run maxPushes events).ledger.isPushed target = false ↔
      target ∉ (run maxPushes events).ledger.pushed := by
    unfold Ledger.isPushed
    simp
  rw [Ledger.reserve_eq_budgetExhausted, hlimit, hpushed, hcount]
  constructor
  · rintro ⟨hsome, hnew, hfull⟩
    exact ⟨hsome, hnew, Nat.le_antisymm (hbound limit hsome) hfull⟩
  · rintro ⟨hsome, hnew, hfull⟩
    exact ⟨hsome, hnew, Nat.le_of_eq hfull.symm⟩

end Traffic

end Hypermedia.Push
