import Hypermedia.Connection
import Hypermedia.Proofs.Push.Budget

/-!
# Pushes that fail

A push is entered before the transport is called. When the transport fails it, it is taken back in
several steps, and the transport may have delivered the follow-up of the push by then, which
completes it. Nothing is left of such a push, so that it can be made again.

* `Ledger.FollowedUp` is what a transport may do to the ledger meanwhile, `FailsCleanly` says that a
  transport does no more to it when it fails a push.
* `Ledger.SameAccounts` compares the accounts of two ledgers. `push_of_error` is a push that fails,
  `Retried.sameAccounts` any number of them in a row.
* `Traffic.failed_push_leaves_no_trace` puts these together for every state of a connection.
-/

namespace Hypermedia.Push

/-! ## What happens while the transport is called -/

/-- What becomes of a ledger while the transport sends a push: nothing, or the follow-up of this very
push gets its handle and is over. -/
inductive Ledger.FollowedUp (ledger : Ledger) (target : String) (headers : Headers) :
    Ledger → Prop where
  /-- The ledger stays as it is. -/
  | untouched : FollowedUp ledger target headers ledger
  /-- The follow-up comes, with the target and the correlation identifier of the push, and finishes. -/
  | finished {uri : Uri} {fields : Headers} {canPush wait : Bool} {handle : Handle}
      {opened last : Ledger} (htarget : targetOf uri = target)
      (hfields : fields.get? correlationField = headers.get? correlationField)
      (hopen : ledger.handleFor fields uri canPush = some (handle, opened))
      (hfinish : opened.finish? handle wait = some last) :
      FollowedUp ledger target headers last

/-- The follow-up of a push that is over has completed that push, unless its handle was released
before, and has done nothing else to the accounts. -/
theorem Ledger.FollowedUp.accounts {ledger ledger' : Ledger} {id : CycleId} {target : String}
    {headers : Headers} (h : ledger.FollowedUp target (withCorrelation id headers) ledger') :
    ledger'.maxPushes = ledger.maxPushes ∧ ledger'.pushed = ledger.pushed ∧
      (ledger'.cycles = ledger.cycles ∨
        ledger'.cycles = (ledger.updateCycle id (·.complete target)).cycles) := by
  cases h with
  | untouched => exact ⟨rfl, rfl, .inl rfl⟩
  | @finished uri fields canPush wait handle opened _ htarget hfields hopen hfinish =>
      obtain rfl := finish?_eq_some hfinish
      obtain ⟨-, -, hlimit, hpushed, hcycles, -⟩ := handleFor_accounts hopen
      have hrole : handle.cycle = id ∧ handle.role = .followUp target := by
        rcases handleFor_eq_some hopen with ⟨hnone, -, -⟩ | ⟨value, hvalue, hread, -, hhandle, -⟩
        · rw [hfields, get?_withCorrelation] at hnone
          cases hnone
        · rw [hfields, get?_withCorrelation, Option.some.injEq] at hvalue
          rw [← hvalue, readable?_correlation, Option.some.injEq] at hread
          exact ⟨(correlation_injective hread).symm, by rw [hhandle, htarget]⟩
      refine ⟨by simp [hlimit], by simp [hpushed], ?_⟩
      cases hfirst : opened.isReleased handle with
      | true =>
          rw [release_of_isReleased hfirst]
          exact .inl hcycles
      | false =>
          right
          rw [release_cycles_of_followUp hrole.2 hfirst, hrole.1]
          funext other
          simp only [updateCycle_cycles, hcycles]

/-! ## Accounts -/

/-- Two ledgers with the same accounts: the same targets count as pushed, and the counts of every cycle
are the same. -/
structure Ledger.SameAccounts (ledger ledger' : Ledger) : Prop where
  /-- How many pushes a cycle may make. -/
  maxPushes : ledger'.maxPushes = ledger.maxPushes
  /-- What counts as pushed. -/
  mem_pushed : ∀ target, target ∈ ledger'.pushed ↔ target ∈ ledger.pushed
  /-- The counts of the cycles. -/
  cycles : ledger'.cycles = ledger.cycles

namespace Ledger

variable {ledger ledger' last : Ledger}

theorem SameAccounts.refl (ledger : Ledger) : ledger.SameAccounts ledger :=
  ⟨rfl, fun _ => Iff.rfl, rfl⟩

theorem SameAccounts.trans (h : ledger.SameAccounts ledger') (hlast : ledger'.SameAccounts last) :
    ledger.SameAccounts last :=
  ⟨hlast.maxPushes.trans h.maxPushes,
    fun target => (hlast.mem_pushed target).trans (h.mem_pushed target),
    hlast.cycles.trans h.cycles⟩

/-- Whether a push is entered depends on the accounts only. -/
theorem SameAccounts.exists_reserve_eq_ok (h : ledger.SameAccounts ledger') {id : CycleId}
    {target : String} (hreserve : ∃ entered, ledger.reserve id target = .ok entered) :
    ∃ entered, ledger'.reserve id target = .ok entered := by
  rw [exists_reserve_eq_ok_iff] at hreserve ⊢
  rw [h.mem_pushed, h.maxPushes, h.cycles]
  exact hreserve

/-- What is in flight counts as pushed. -/
def InFlightPushed (ledger : Ledger) : Prop :=
  ∀ id, ∀ target ∈ ledger.inFlight id, target ∈ ledger.pushed

theorem SameAccounts.inFlightPushed (h : ledger.SameAccounts ledger')
    (hinFlight : ledger.InFlightPushed) : ledger'.InFlightPushed := by
  intro id target htarget
  rw [inFlight, h.cycles] at htarget
  exact (h.mem_pushed target).mpr (hinFlight id target htarget)

/-- A push that the transport fails is taken back, whether or not its follow-up has completed it. Its
target stays only if the transport knows it as pushed. -/
theorem settle_followedUp {entered called : Ledger} {id : CycleId} {target : String}
    {headers : Headers} (hfree : target ∉ ledger.inFlight id)
    (hreserve : ledger.reserve id target = .ok entered)
    (hcall : entered.FollowedUp target (withCorrelation id headers) called) (error : PushError) :
    (called.settle id target (.error error)).maxPushes = ledger.maxPushes ∧
      (called.settle id target (.error error)).cycles = ledger.cycles ∧
      ∀ other, other ∈ (called.settle id target (.error error)).pushed ↔
        other ∈ ledger.pushed ∨ other = target ∧ error = .alreadyPushed := by
  obtain ⟨hnew, -, rfl⟩ := reserve_eq_ok hreserve
  obtain ⟨hlimit, hpushed, hcycles⟩ := hcall.accounts
  refine ⟨by simp [hlimit], ?_, fun other => ?_⟩
  · funext other
    rw [settle_cycles, if_neg (by simp [Answer.isMade]), updateCycle_cycles]
    by_cases hid : other = id
    · subst hid
      rcases hcycles with hsame | hcompleted
      · simp [hsame, updateCycle_cycles, Cycle.undo_start hfree]
      · simp [hcompleted, updateCycle_cycles, Cycle.undo_complete_start hfree]
    · rcases hcycles with hsame | hcompleted
      · simp [hsame, updateCycle_cycles, hid]
      · simp [hcompleted, updateCycle_cycles, hid]
  · have hkept : Answer.isKept (.error error) = true ↔ error = .alreadyPushed := by
      simp [Answer.isKept_iff]
    rw [mem_settle_pushed, hpushed, hkept, updateCycle_pushed, List.mem_cons]
    by_cases hother : other = target
    · subst hother
      simp [hnew]
    · simp [hother]

end Ledger

/-! ## Pushes that fail -/

variable {τ : Type}

/-- When the transport fails a push, it has done nothing to the ledger, or the follow-up of this very
push came and was over before the answer. -/
def FailsCleanly (transport : Transport τ) (id : CycleId) (target : String) (headers : Headers)
    (world : World τ) : Prop :=
  ∀ entered error called, world.ledger.reserve id target = .ok entered →
    (transport target (withCorrelation id headers)).run ⟨entered, world.transport⟩ =
      (.error error, called) →
    entered.FollowedUp target (withCorrelation id headers) called.ledger

section

variable {transport : Transport τ} {id : CycleId} {target : String} {headers : Headers}
  {world after : World τ}

/-- A push that fails leaves the accounts as they were. Only where the transport itself knows the target
as pushed, this counts as pushed from then on. -/
theorem push_of_error {error : PushError} (hinFlight : world.ledger.InFlightPushed)
    (hclean : FailsCleanly transport id target headers world)
    (h : (push transport id target headers).run world = (.error error, after)) :
    after.ledger.maxPushes = world.ledger.maxPushes ∧
      after.ledger.cycles = world.ledger.cycles ∧
      ∀ other, other ∈ after.ledger.pushed ↔
        other ∈ world.ledger.pushed ∨ other = target ∧ error = .alreadyPushed := by
  cases hreserve : world.ledger.reserve id target with
  | error refusal =>
      rw [push_of_refused hreserve] at h
      obtain ⟨hsame, rfl⟩ := Prod.mk.inj h
      refine ⟨rfl, rfl, fun other => ⟨.inl, ?_⟩⟩
      rintro (hold | ⟨rfl, rfl⟩)
      · exact hold
      · rw [Except.error.injEq] at hsame
        exact Ledger.reserve_eq_alreadyPushed.mp (hsame ▸ hreserve)
  | ok entered =>
      rw [push_run, hreserve] at h
      dsimp only at h
      generalize hcalled : (transport target (withCorrelation id headers)).run
        ⟨entered, world.transport⟩ = outcome at h
      obtain ⟨answer, called⟩ := outcome
      obtain ⟨rfl, rfl⟩ := Prod.mk.inj h
      have hfree : target ∉ world.ledger.inFlight id := by
        intro hmem
        exact (Ledger.reserve_eq_ok hreserve).1 (hinFlight id target hmem)
      exact Ledger.settle_followedUp hfree hreserve (hclean entered error called hreserve hcalled)
        error

/-- A push that fails otherwise than because the target is known leaves the accounts as they were. -/
theorem sameAccounts_of_error {error : PushError} (hinFlight : world.ledger.InFlightPushed)
    (hclean : FailsCleanly transport id target headers world) (herror : error ≠ .alreadyPushed)
    (h : (push transport id target headers).run world = (.error error, after)) :
    world.ledger.SameAccounts after.ledger := by
  obtain ⟨hlimit, hcycles, hpushed⟩ := push_of_error hinFlight hclean h
  refine ⟨hlimit, fun other => ?_, hcycles⟩
  simp [hpushed, herror]

end

/-! ## Any number of failures -/

/-- A push of a target is tried any number of times, through any transports, and fails each time. -/
inductive Retried (id : CycleId) (target : String) (headers : Headers) :
    World τ → World τ → Prop where
  /-- No try. -/
  | none (world : World τ) : Retried id target headers world world
  /-- A try that the transport fails, and then some more. -/
  | failed {world next last : World τ} (transport : Transport τ) (error : PushError)
      (hclean : FailsCleanly transport id target headers world)
      (herror : error ≠ .alreadyPushed)
      (hpush : (push transport id target headers).run world = (.error error, next))
      (hrest : Retried id target headers next last) :
      Retried id target headers world last

/-- Any number of pushes that fail leave the accounts as they were. -/
theorem Retried.sameAccounts {id : CycleId} {target : String} {headers : Headers}
    {world last : World τ} (h : Retried id target headers world last)
    (hinFlight : world.ledger.InFlightPushed) : world.ledger.SameAccounts last.ledger := by
  induction h with
  | none world => exact .refl _
  | failed transport error hclean herror hpush hrest ih =>
      have hsame := sameAccounts_of_error hinFlight hclean herror hpush
      exact hsame.trans (ih (hsame.inFlightPushed hinFlight))

/-- The answer to a push that is entered is that of the transport. -/
theorem push_of_accepted {accepting : Transport τ} {id : CycleId} {target : String}
    {headers : Headers} {world : World τ}
    (hreserve : ∃ entered, world.ledger.reserve id target = .ok entered)
    (haccepts : ∀ called,
      ((accepting target (withCorrelation id headers)).run called).1 = .ok ()) :
    ((push accepting id target headers).run world).1 = .ok () := by
  obtain ⟨entered, hreserve⟩ := hreserve
  rw [push_run, hreserve]
  exact haccepts ⟨entered, world.transport⟩

end Hypermedia.Push

/-! ## The transport of a connection -/

namespace Hypermedia.Wire

open Push

/-- A follow-up that is delivered within the call finishes within the call. -/
theorem followedUp_loop {target : String}
    (htarget : ∀ uri, Uri.parse? target = some uri → Ledger.targetOf uri = target)
    (headers : Headers) (world : World Wire) :
    world.ledger.FollowedUp target headers (loop target headers world).ledger := by
  unfold loop
  cases huri : Uri.parse? target with
  | none => exact .untouched
  | some uri =>
      dsimp only
      cases hopen : world.ledger.handleFor headers uri false with
      | none => exact .untouched
      | some opened =>
          obtain ⟨handle, ledger⟩ := opened
          have hfinish : ledger.finish? handle false = some (ledger.release handle) := by
            simp [Ledger.finish?]
          exact .finished (htarget uri huri) rfl hopen hfinish

/-- Whatever its mode, the transport fails cleanly, if the target is one that its follow-up asks for. -/
theorem failsCleanly {target : String}
    (htarget : ∀ uri, Uri.parse? target = some uri → Ledger.targetOf uri = target) (id : CycleId)
    (headers : Headers) (world : World Wire) :
    FailsCleanly transport id target headers world := by
  intro entered error called _ hcalled
  have hafter := congrArg (fun outcome => outcome.2.ledger) hcalled
  simp only at hafter
  rw [← hafter]
  obtain ⟨ledger, mode, log⟩ := world
  have hloop := followedUp_loop htarget (withCorrelation id headers)
    ⟨entered, mode, log ++ [⟨target, withCorrelation id headers⟩]⟩
  cases mode with
  | loops => exact hloop
  | loopsAndRefuses => exact hloop
  | accepts | incapable | refuses | known | exhausted => exact .untouched

end Hypermedia.Wire

/-! ## States of a connection -/

namespace Hypermedia.Push.Traffic

/-- In every state of a connection, what is in flight counts as pushed. -/
theorem inFlightPushed_run (maxPushes : Option Nat) (events : List Event) :
    (run maxPushes events).ledger.InFlightPushed := by
  intro id target htarget
  exact (accounted_run maxPushes events).mem_pushed htarget

/-- **A failed push leaves no trace.** Take any state of a connection and any push. If its target
counts as pushed, or the cycle has made all the pushes it may, the push is refused and the transport
is not called, so that nothing changes at all. If the push fails in the transport, which has left the
ledger alone or has had the follow-up of this very push come and finish before, then all counts of all
cycles are the same after the push as before it, and so are the targets that count as pushed, except
that the target stays among them where the transport answered that it knows it as pushed. So after any
number of failures a push that the ledger has not refused succeeds as soon as a transport accepts it.
-/
theorem failed_push_leaves_no_trace (maxPushes : Option Nat) (events : List Event) {τ : Type}
    (state : τ) (id : CycleId) (target : String) (headers : Headers) :
    let world : World τ := ⟨(run maxPushes events).ledger, state⟩
    (∀ transport : Transport τ, world.ledger.isPushed target = true →
      (push transport id target headers).run world = (.error .alreadyPushed, world)) ∧
    (∀ (transport : Transport τ) (limit : Nat), world.ledger.isPushed target = false →
      maxPushes = some limit → limit ≤ (world.ledger.cycles id).pushes →
      (push transport id target headers).run world = (.error (.budgetExhausted limit), world)) ∧
    (∀ (transport : Transport τ) (error : PushError) (after : World τ),
      FailsCleanly transport id target headers world →
      (push transport id target headers).run world = (.error error, after) →
      (∀ other, after.ledger.cycles other = world.ledger.cycles other) ∧
      ∀ other, after.ledger.isPushed other = true ↔
        world.ledger.isPushed other = true ∨ other = target ∧ error = .alreadyPushed) ∧
    ∀ (after : World τ) (accepting : Transport τ), Retried id target headers world after →
      world.ledger.isPushed target = false →
      (∀ limit, maxPushes = some limit → (world.ledger.cycles id).pushes < limit) →
      (∀ called, ((accepting target (withCorrelation id headers)).run called).1 = .ok ()) →
      ((push accepting id target headers).run after).1 = .ok () := by
  intro world
  have hinFlight : world.ledger.InFlightPushed := inFlightPushed_run maxPushes events
  have hlimit : world.ledger.maxPushes = maxPushes := maxPushes_run maxPushes events
  have hpushed : ∀ (ledger : Ledger) other, ledger.isPushed other = true ↔ other ∈ ledger.pushed :=
    fun ledger other => List.contains_iff_mem
  have hfresh : world.ledger.isPushed target = false → target ∉ world.ledger.pushed := by
    intro hnew hmem
    rw [(hpushed _ _).mpr hmem] at hnew
    cases hnew
  refine ⟨fun transport hknown => ?_, fun transport limit hnew hsome hfull => ?_,
    fun transport error after hclean hpush => ?_,
    fun after accepting hretried hnew hbudget haccepts => ?_⟩
  · exact push_of_refused (Ledger.reserve_eq_alreadyPushed.mpr ((hpushed _ _).mp hknown))
  · exact push_of_refused
      (Ledger.reserve_eq_budgetExhausted.mpr ⟨hlimit.trans hsome, hfresh hnew, hfull⟩)
  · obtain ⟨-, hcycles, hkept⟩ := push_of_error hinFlight hclean hpush
    refine ⟨congrFun hcycles, fun other => ?_⟩
    rw [hpushed, hpushed]
    exact hkept other
  · have hentered : ∃ entered, world.ledger.reserve id target = .ok entered := by
      rw [Ledger.exists_reserve_eq_ok_iff, hlimit]
      exact ⟨hfresh hnew, hbudget⟩
    exact push_of_accepted ((hretried.sameAccounts hinFlight).exists_reserve_eq_ok hentered)
      haccepts

/-- A connection with one request, whose transport delivers the follow-up of a push and then fails the
push. -/
def refusedAfterFollowUp : World Wire :=
  ⟨(run (some 1) [.arrive ⟨[]⟩ ⟨none, none, "/books/1", none⟩ true]).ledger,
    ⟨.loopsAndRefuses, []⟩⟩

/-- Though the follow-up of the push has completed it, nothing is left of the push, and the one push
that the cycle may make can still be made. -/
theorem failed_push_leaves_no_trace_followUp :
    let failed := (push Wire.transport 0 "/users/5" ⟨[]⟩).run refusedAfterFollowUp
    failed.1 = .error Wire.failure ∧ failed.2.ledger.released = [1] ∧
      (∀ id, failed.2.ledger.cycles id = refusedAfterFollowUp.ledger.cycles id) ∧
      failed.2.ledger.isPushed "/users/5" = false ∧
      ((push (fun _ _ => pure (.ok ())) 0 "/users/5" ⟨[]⟩).run failed.2).1 = .ok () := by
  intro failed
  have hclean : FailsCleanly Wire.transport 0 "/users/5" ⟨[]⟩ refusedAfterFollowUp := by
    refine Wire.failsCleanly (fun uri huri => ?_) 0 ⟨[]⟩ _
    have htarget : (Uri.parse? "/users/5").map Ledger.targetOf = some "/users/5" := by
      decide +kernel
    rw [huri] at htarget
    exact Option.some.inj htarget
  have hpush : (push Wire.transport 0 "/users/5" ⟨[]⟩).run refusedAfterFollowUp =
      (.error Wire.failure, failed.2) := Prod.ext (by decide +kernel) rfl
  obtain ⟨-, -, htrace, hretry⟩ := failed_push_leaves_no_trace (some 1)
    [.arrive ⟨[]⟩ ⟨none, none, "/books/1", none⟩ true] (Wire.mk .loopsAndRefuses []) 0 "/users/5"
    ⟨[]⟩
  obtain ⟨hcycles, hpushed⟩ := htrace Wire.transport Wire.failure failed.2 hclean hpush
  refine ⟨congrArg Prod.fst hpush, by decide +kernel, hcycles, ?_, ?_⟩
  · rw [Bool.eq_false_iff, ne_eq, hpushed]
    decide
  · exact hretry failed.2 _
      (.failed Wire.transport Wire.failure hclean (by decide) hpush (.none _)) (by decide)
      (by decide) fun _ => rfl

end Hypermedia.Push.Traffic
