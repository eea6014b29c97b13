import Hypermedia.Proofs.Push.AtMostOnce
import Hypermedia.Proofs.Push.Cycle

/-!
# Pushes in flight

The accounts of a connection, whatever its host does. A push is in flight from the moment it is
entered until the transport refuses it or a follow-up with its target is released; follow-ups may
come for any target, several times, and also for pushes that were never made.

* `Ledger.inFlight` are the targets in flight in a cycle. The statements about it say how entering,
  answering and releasing change it.
* `Accounted` is the invariant: each cycle is balanced, what is in flight in a cycle was called for
  there, and a cycle has counted those of its calls that were made or are being made.
* `Traffic.in_flight_accounting` says what follows for the counts of every cycle, among it that
  none of them is ever lowered below zero.
-/

namespace Hypermedia.Push

/-! ## What is in flight -/

namespace Ledger

variable {ledger ledger' : Ledger}

/-- The targets in flight in a cycle. -/
def inFlight (ledger : Ledger) (id : CycleId) : List String :=
  (ledger.cycles id).inFlight.targets

/-- Whether every cycle is balanced. -/
def Balanced (ledger : Ledger) : Prop :=
  ∀ id, (ledger.cycles id).Balanced

/-- What is in flight after a push was entered. -/
theorem mem_inFlight_reserve {id other : CycleId} {target name : String}
    (h : ledger.reserve id target = .ok ledger') :
    name ∈ ledger'.inFlight other ↔
      (other = id ∧ name = target) ∨ name ∈ ledger.inFlight other := by
  obtain ⟨-, -, rfl⟩ := reserve_eq_ok h
  unfold inFlight
  rw [updateCycle_cycles]
  by_cases hid : other = id
  · rw [if_pos hid, Cycle.mem_start, hid]
    simp
  · rw [if_neg hid]
    simp [hid]

/-- Entering a push of a target that is not in flight keeps every cycle balanced. -/
theorem Balanced.reserve (hb : ledger.Balanced) {id : CycleId} {target : String}
    (hfree : target ∉ ledger.inFlight id) (h : ledger.reserve id target = .ok ledger') :
    ledger'.Balanced := by
  obtain ⟨-, -, rfl⟩ := reserve_eq_ok h
  intro other
  rw [updateCycle_cycles]
  by_cases hid : other = id
  · rw [if_pos hid]
    exact (hb id).start hfree
  · rw [if_neg hid]
    exact hb other

/-- What is in flight after the answer to a push. -/
theorem Balanced.mem_inFlight_settle (hb : ledger.Balanced) {id other : CycleId}
    {target name : String} {answer : Answer} :
    name ∈ (ledger.settle id target answer).inFlight other ↔
      name ∈ ledger.inFlight other ∧ (other = id → name = target → answer.isMade = true) := by
  unfold inFlight
  rw [settle_cycles]
  cases hmade : answer.isMade with
  | true => simp
  | false =>
      rw [if_neg (by simp), updateCycle_cycles]
      by_cases hid : other = id
      · rw [if_pos hid, Cycle.undo_inFlight, (hb id).mem_complete, hid]
        simp [and_comm]
      · rw [if_neg hid]
        simp [hid]

/-- The answer to a push keeps every cycle balanced. -/
theorem Balanced.settle (hb : ledger.Balanced) (id : CycleId) (target : String)
    (answer : Answer) : (ledger.settle id target answer).Balanced := by
  intro other
  rw [settle_cycles]
  cases hmade : answer.isMade with
  | true => exact hb other
  | false =>
      rw [if_neg (by simp), updateCycle_cycles]
      by_cases hid : other = id
      · rw [if_pos hid]
        exact (hb id).undo
      · rw [if_neg hid]
        exact hb other

/-- What is in flight after the first release of a follow-up. -/
theorem Balanced.mem_inFlight_release (hb : ledger.Balanced) {handle : Handle} {target : String}
    (hrole : handle.role = .followUp target) (hfirst : ledger.isReleased handle = false)
    {other : CycleId} {name : String} :
    name ∈ (ledger.release handle).inFlight other ↔
      name ∈ ledger.inFlight other ∧ ¬(other = handle.cycle ∧ name = target) := by
  unfold inFlight
  rw [release_cycles_of_followUp hrole hfirst, updateCycle_cycles]
  by_cases hid : other = handle.cycle
  · rw [if_pos hid, (hb handle.cycle).mem_complete, hid]
    simp [and_comm]
  · rw [if_neg hid]
    simp [hid]

/-- A release puts nothing in flight. -/
theorem Balanced.mem_inFlight_of_release (hb : ledger.Balanced) {handle : Handle} {id : CycleId}
    {name : String} (h : name ∈ (ledger.release handle).inFlight id) :
    name ∈ ledger.inFlight id := by
  unfold inFlight at h ⊢
  rcases ledger.release_cycles handle id with heq | ⟨target, heq⟩
  · rwa [heq] at h
  · rw [heq, (hb id).mem_complete] at h
    exact h.2

/-- A release keeps every cycle balanced. -/
theorem Balanced.release (hb : ledger.Balanced) (handle : Handle) :
    (ledger.release handle).Balanced := by
  intro id
  rcases ledger.release_cycles handle id with heq | ⟨target, heq⟩
  · rw [heq]
    exact hb id
  · rw [heq]
    exact (hb id).complete

end Ledger

/-! ## The invariant -/

/-- The accounts of a ledger agree with the calls of the transport. -/
structure Accounted (ledger : Ledger) (calls : List Call) : Prop where
  /-- A target is pushed at most once. -/
  once : OncePerTarget ledger.pushed calls
  /-- The pushes in flight of each cycle sum up to the outstanding ones. -/
  balanced : ledger.Balanced
  /-- What is in flight in a cycle was called for in that cycle, and not in vain so far. -/
  called_of_mem : ∀ id, ∀ target ∈ ledger.inFlight id,
    ∃ call ∈ calls, call.cycle = id ∧ call.target = target ∧ call.isLive = true
  /-- A cycle counts its pushes that were made or are being made. -/
  pushes_eq : ∀ id, (ledger.cycles id).pushes =
    calls.countP fun call => call.cycle = id ∧ call.isLive = true

namespace Accounted

variable {ledger ledger' : Ledger} {calls : List Call}

/-- A new connection. -/
theorem empty (maxPushes : Option Nat) : Accounted (.empty maxPushes) [] :=
  ⟨.nil, fun _ => Cycle.balanced_new, fun _ _ h => absurd h List.not_mem_nil, fun _ => rfl⟩

/-- The accounts depend on the targets that count as pushed and on the cycles only. -/
theorem congr (h : Accounted ledger calls) (hpushed : ledger'.pushed = ledger.pushed)
    (hcycles : ledger'.cycles = ledger.cycles) : Accounted ledger' calls := by
  refine ⟨?_, ?_, ?_, ?_⟩
  · rw [hpushed]
    exact h.once
  · unfold Ledger.Balanced
    rw [hcycles]
    exact h.balanced
  · unfold Ledger.inFlight
    rw [hcycles]
    exact h.called_of_mem
  · rw [hcycles]
    exact h.pushes_eq

/-- What is in flight counts as pushed. -/
theorem mem_pushed (h : Accounted ledger calls) {id : CycleId} {target : String}
    (htarget : target ∈ ledger.inFlight id) : target ∈ ledger.pushed := by
  obtain ⟨call, hcall, -, rfl, hlive⟩ := h.called_of_mem id target htarget
  exact (h.once.mem_pushed_iff _).mpr ⟨call, hcall, rfl, Call.holds_of_isLive hlive⟩

/-- No target is in flight in two cycles. -/
theorem cycle_unique (h : Accounted ledger calls) {a b : CycleId} {target : String}
    (ha : target ∈ ledger.inFlight a) (hb : target ∈ ledger.inFlight b) : a = b := by
  obtain ⟨call, hcall, rfl, htarget, hlive⟩ := h.called_of_mem a target ha
  obtain ⟨other, hother, rfl, hsame, holive⟩ := h.called_of_mem b target hb
  rw [h.once.eq_of_holds hcall hother (htarget.trans hsame.symm) (Call.holds_of_isLive hlive)
    (Call.holds_of_isLive holive)]

/-- The cycle of a call in progress has counted it. -/
theorem pushes_pos (h : Accounted ledger calls) {call : Call} (hcall : call ∈ calls)
    (hpending : call.answer = none) : 0 < (ledger.cycles call.cycle).pushes := by
  rw [h.pushes_eq, List.countP_pos_iff]
  refine ⟨call, hcall, ?_⟩
  simp [Call.isLive, hpending]

/-! ## What preserves it -/

/-- The release of a handle, whichever push it completes. -/
theorem release (h : Accounted ledger calls) (handle : Handle) :
    Accounted (ledger.release handle) calls := by
  refine ⟨?_, h.balanced.release handle, ?_, fun id => ?_⟩
  · rw [Ledger.release_pushed]
    exact h.once
  · intro id target htarget
    exact h.called_of_mem id target (h.balanced.mem_inFlight_of_release htarget)
  · rcases ledger.release_cycles handle id with heq | ⟨target, heq⟩
    · rw [heq]
      exact h.pushes_eq id
    · rw [heq, Cycle.complete_pushes]
      exact h.pushes_eq id

/-- A push that is entered. -/
theorem reserve (h : Accounted ledger calls) {call : Call} (hpending : call.answer = none)
    (hreserve : ledger.reserve call.cycle call.target = .ok ledger') :
    Accounted ledger' (call :: calls) := by
  obtain ⟨hnew, -, hledger⟩ := Ledger.reserve_eq_ok hreserve
  have hlive : call.isLive = true := by simp [Call.isLive, hpending]
  have hfree : call.target ∉ ledger.inFlight call.cycle := fun hmem => hnew (h.mem_pushed hmem)
  refine ⟨?_, h.balanced.reserve hfree hreserve, ?_, fun id => ?_⟩
  · rw [hledger]
    exact h.once.cons _ hnew hpending
  · intro id target htarget
    rcases (Ledger.mem_inFlight_reserve hreserve).mp htarget with ⟨rfl, rfl⟩ | hold
    · exact ⟨call, List.mem_cons_self, rfl, rfl, hlive⟩
    · obtain ⟨other, hother, hrest⟩ := h.called_of_mem id target hold
      exact ⟨other, List.mem_cons_of_mem _ hother, hrest⟩
  · rw [hledger, Ledger.updateCycle_cycles, List.countP_cons]
    by_cases hid : id = call.cycle
    · rw [if_pos hid, Cycle.start_pushes, hid, if_pos (by simp [hlive])]
      exact congrArg (· + 1) (h.pushes_eq call.cycle)
    · rw [if_neg hid, if_neg (by simp [Ne.symm hid])]
      exact h.pushes_eq id

/-- The answer to a call in progress. -/
theorem settle {later earlier : List Call} {call : Call} (answer : Answer)
    (h : Accounted ledger (later ++ call :: earlier)) (hpending : call.answer = none) :
    Accounted (ledger.settle call.cycle call.target answer)
      (later ++ { call with answer := some answer } :: earlier) := by
  have hlive : call.isLive = true := by simp [Call.isLive, hpending]
  refine ⟨h.once.answer hpending fun target => Ledger.mem_settle_pushed,
    h.balanced.settle _ _ _, fun id target htarget => ?_, fun id => ?_⟩
  · obtain ⟨hold, hmade⟩ := h.balanced.mem_inFlight_settle.mp htarget
    obtain ⟨other, hother, hcycle, hsame, holive⟩ := h.called_of_mem id target hold
    simp only [List.mem_append, List.mem_cons] at hother ⊢
    rcases hother with hin | rfl | hin
    · exact ⟨other, .inl hin, hcycle, hsame, holive⟩
    · exact ⟨_, .inr (.inl rfl), hcycle, hsame, hmade hcycle.symm hsame.symm⟩
    · exact ⟨other, .inr (.inr hin), hcycle, hsame, holive⟩
  · have hcount := h.pushes_eq id
    rw [List.countP_append, List.countP_cons] at hcount ⊢
    rw [Ledger.settle_cycles]
    cases hmade : answer.isMade with
    | true =>
        rw [if_pos rfl, hcount]
        simp [Call.isLive, Call.cycle, hpending, hmade]
    | false =>
        rw [if_neg (by simp), Ledger.updateCycle_cycles]
        by_cases hid : id = call.cycle
        · subst hid
          rw [if_pos rfl, Cycle.undo_pushes, hcount, if_pos (by simp [hlive]),
            if_neg (by simp [Call.isLive, hmade])]
          omega
        · rw [if_neg hid, hcount, if_neg (by simp [Ne.symm hid]),
            if_neg (by simp [Call.isLive, hmade])]

end Accounted

/-! ## Runs -/

namespace Traffic

/-- Each step preserves the agreement of the accounts. -/
theorem accounted_step {traffic : Traffic} (event : Event)
    (h : Accounted traffic.ledger traffic.calls) :
    Accounted (traffic.step event).ledger (traffic.step event).calls := by
  have hstep := traffic.step_cases event
  generalize traffic.step event = next at hstep
  cases hstep with
  | idle => exact h
  | opened headers uri canPush handle ledger hopen =>
      obtain ⟨-, -, -, hpushed, hcycles, -⟩ := Ledger.handleFor_accounts hopen
      exact h.congr hpushed hcycles
  | called handle target headers ledger hhandle hreserve => exact h.reserve rfl hreserve
  | answered place answer later earlier call hplace hcalls hpending =>
      rw [hcalls] at h
      exact h.settle answer hpending
  | released event handle waiting hhandle hwaiting => exact h.release handle

/-- In every state of a connection the accounts agree with the calls. -/
theorem accounted_run (maxPushes : Option Nat) (events : List Event) :
    Accounted (run maxPushes events).ledger (run maxPushes events).calls :=
  run_induction (P := fun traffic => Accounted traffic.ledger traffic.calls)
    (.empty maxPushes) (fun _ event h => accounted_step event h) events

/-- **The accounts of pushes in flight.** After any steps on a connection, in every cycle:
the outstanding pushes are the sum of the counts in flight; a target in flight has one entry, its
count is one, and it counts as pushed; and no target is in flight in two cycles. Where the completion
of a push lowers a count in flight and the number of outstanding pushes, and where the failure of a
call in progress lowers the number of pushes of its cycle, these are positive. -/
theorem in_flight_accounting (maxPushes : Option Nat) (events : List Event) :
    (∀ id, ((run maxPushes events).ledger.cycles id).outstanding =
      ((run maxPushes events).ledger.cycles id).inFlight.total) ∧
    (∀ id, ((run maxPushes events).ledger.cycles id).inFlight.targets.Nodup ∧
      ∀ entry ∈ ((run maxPushes events).ledger.cycles id).inFlight,
        entry.2 = 1 ∧ (run maxPushes events).ledger.isPushed entry.1 = true) ∧
    (∀ a b target, target ∈ ((run maxPushes events).ledger.cycles a).inFlight.targets →
      target ∈ ((run maxPushes events).ledger.cycles b).inFlight.targets → a = b) ∧
    (∀ id, ∀ entry ∈ ((run maxPushes events).ledger.cycles id).inFlight,
      0 < entry.2 ∧ 0 < ((run maxPushes events).ledger.cycles id).outstanding) ∧
    ∀ call ∈ (run maxPushes events).calls, call.answer = none →
      0 < ((run maxPushes events).ledger.cycles call.cycle).pushes := by
  have h := accounted_run maxPushes events
  refine ⟨fun id => (h.balanced id).outstanding_eq,
    fun id => ⟨(h.balanced id).simple.nodup, fun entry hentry => ?_⟩,
    fun a b target => h.cycle_unique, fun id entry hentry => (h.balanced id).pos_of_mem hentry,
    fun call hcall hpending => h.pushes_pos hcall hpending⟩
  have htarget : entry.1 ∈ (run maxPushes events).ledger.inFlight id :=
    List.mem_map_of_mem hentry
  refine ⟨(h.balanced id).simple.count_eq_one entry hentry, ?_⟩
  unfold Ledger.isPushed
  exact List.contains_iff_mem.mpr (h.mem_pushed htarget)

end Traffic

end Hypermedia.Push
