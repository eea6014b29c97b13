import Hypermedia.Proofs.Header
import Hypermedia.Push.Transport

/-!
# What the operations of a ledger do

One statement for each operation, so that nothing below has to look into it.

* `correlation_injective` and `readable?_correlation` say that a correlation identifier can be read
  back from the header field that carries it.
* `Ledger.handleFor_eq_some` is what a request that gets a handle changes.
* `Ledger.release_cycles` and the statements around it are about the release of a handle.
* `Ledger.reserve_eq_ok` is what entering a push changes and what it requires.
* `Ledger.mem_settle_pushed` and `Ledger.settle_cycles` tell the answers of a transport apart:
  `Answer.isMade` are those after which the push was made, `Answer.isKept` those after which its
  target stays on the ledger.
* `push_run` is a push: it is entered, the transport is called, and the answer is settled.
-/

namespace Hypermedia.Push

/-! ## Correlation identifiers -/

/-- Different cycles have different correlation identifiers. -/
theorem correlation_injective {a b : CycleId} (h : correlation a = correlation b) : a = b := by
  have hdigits : a.repr.toList = b.repr.toList :=
    congrArg String.toList ((String.append_right_inj _).mp h)
  rw [Nat.toList_repr, Nat.toList_repr] at hdigits
  have hnumber := congrArg (Nat.ofDigitChars 10 · 0) hdigits
  simpa using hnumber

/-- A correlation identifier consists of printable characters. -/
theorem isPrintable_correlation (id : CycleId) : isPrintable (correlation id) = true := by
  unfold correlation
  rw [isPrintable_append, isPrintable_of_isUrlText (isUrlText_toString _)]
  rfl

/-- The header field of a correlation identifier can be read back. -/
theorem readable?_correlation (id : CycleId) :
    readable? (Bytes.ofString (correlation id)) = some (correlation id) :=
  readable?_ofString (isPrintable_correlation id)

/-- A pushed request carries the correlation identifier of its cycle. -/
theorem get?_withCorrelation (id : CycleId) (headers : Headers) :
    (withCorrelation id headers).get? correlationField =
      some (Bytes.ofString (correlation id)) :=
  Headers.get?_insert_self ..

/-! ## Answers -/

namespace Answer

/-- Whether the push was made. -/
def isMade : Answer → Bool
  | .ok () => true
  | .error _ => false

/-- Whether the target counts as pushed: the push was made, or the transport knows the target as
pushed. -/
def isKept : Answer → Bool
  | .ok () => true
  | .error .alreadyPushed => true
  | .error _ => false

/-- The target of a push that was made counts as pushed. -/
theorem isKept_of_isMade {answer : Answer} (h : answer.isMade = true) : answer.isKept = true := by
  cases answer with
  | ok => rfl
  | error error => cases h

theorem isKept_iff {answer : Answer} :
    answer.isKept = true ↔ answer = .ok () ∨ answer = .error .alreadyPushed := by
  cases answer with
  | ok => simp [isKept]
  | error error => cases error <;> simp [isKept]

theorem isKept_eq_false_iff {answer : Answer} :
    answer.isKept = false ↔ ∃ error, answer = .error error ∧ error ≠ .alreadyPushed := by
  cases answer with
  | ok => simp [isKept]
  | error error => cases error <;> simp [isKept]

end Answer

namespace Ledger

variable {ledger ledger' : Ledger}

/-! ## Changing one cycle -/

section UpdateCycle

variable (ledger) (id : CycleId) (change : Cycle → Cycle)

@[simp] theorem updateCycle_maxPushes :
    (ledger.updateCycle id change).maxPushes = ledger.maxPushes := rfl

@[simp] theorem updateCycle_pushed : (ledger.updateCycle id change).pushed = ledger.pushed := rfl

@[simp] theorem updateCycle_live : (ledger.updateCycle id change).live = ledger.live := rfl

@[simp] theorem updateCycle_started : (ledger.updateCycle id change).started = ledger.started := rfl

@[simp] theorem updateCycle_opened : (ledger.updateCycle id change).opened = ledger.opened := rfl

@[simp] theorem updateCycle_released :
    (ledger.updateCycle id change).released = ledger.released := rfl

theorem updateCycle_cycles (other : CycleId) : (ledger.updateCycle id change).cycles other =
    if other = id then change (ledger.cycles id) else ledger.cycles other := rfl

end UpdateCycle

/-! ## Requests and their handles -/

/-- What a request that gets a handle changes. Without a correlation identifier it is the origin of
a new cycle; with one it is a follow-up in the live cycle that has it. -/
theorem handleFor_eq_some {headers : Headers} {uri : Uri} {canPush : Bool} {handle : Handle}
    (h : ledger.handleFor headers uri canPush = some (handle, ledger')) :
    (headers.get? correlationField = none ∧ canPush = true ∧
      (handle, ledger') = ledger.openOrigin) ∨
    ∃ value, headers.get? correlationField = some value ∧
      readable? value = some (correlation handle.cycle) ∧ handle.cycle ∈ ledger.live ∧
      handle = ⟨ledger.opened, handle.cycle, .followUp (targetOf uri)⟩ ∧
      ledger' = { ledger with opened := ledger.opened + 1 } := by
  unfold handleFor at h
  cases hget : headers.get? correlationField with
  | none =>
      left
      rw [hget] at h
      by_cases hpush : canPush = true
      · simp only [hpush, if_true, Option.some.injEq] at h
        exact ⟨rfl, hpush, h.symm⟩
      · simp [hpush] at h
  | some value =>
      right
      rw [hget] at h
      obtain ⟨identifier, hread, hopen⟩ := Option.bind_eq_some_iff.mp h
      obtain ⟨id, hfind, hpair⟩ := Option.map_eq_some_iff.mp hopen
      obtain ⟨rfl, rfl⟩ := Prod.mk.inj hpair
      have hid : correlation id = identifier := by simpa using List.find?_some hfind
      exact ⟨value, rfl, hid ▸ hread, List.mem_of_find?_eq_some hfind, rfl, rfl⟩

/-- A request that gets a handle leaves the accounts alone and gets the next number. -/
theorem handleFor_accounts {headers : Headers} {uri : Uri} {canPush : Bool} {handle : Handle}
    (h : ledger.handleFor headers uri canPush = some (handle, ledger')) :
    handle.id = ledger.opened ∧ ledger'.opened = ledger.opened + 1 ∧
      ledger'.maxPushes = ledger.maxPushes ∧ ledger'.pushed = ledger.pushed ∧
      ledger'.cycles = ledger.cycles ∧ ledger'.released = ledger.released := by
  rcases handleFor_eq_some h with ⟨-, -, hopen⟩ | ⟨value, -, -, -, hhandle, hledger⟩
  · obtain ⟨rfl, rfl⟩ := Prod.mk.inj hopen
    exact ⟨rfl, rfl, rfl, rfl, rfl, rfl⟩
  · subst hledger
    exact ⟨by rw [hhandle], rfl, rfl, rfl, rfl, rfl⟩

/-- A request without a correlation identifier starts a cycle if pushes are possible. -/
theorem handleFor_of_get?_eq_none {headers : Headers} (h : headers.get? correlationField = none)
    (uri : Uri) (canPush : Bool) :
    ledger.handleFor headers uri canPush = if canPush then some ledger.openOrigin else none := by
  unfold handleFor
  rw [h]

/-- A request with a correlation identifier gets a handle exactly if this is the identifier of a live
cycle. -/
theorem isSome_handleFor_iff {headers : Headers} {value : Bytes}
    (h : headers.get? correlationField = some value) (uri : Uri) (canPush : Bool) :
    (ledger.handleFor headers uri canPush).isSome = true ↔
      ∃ id ∈ ledger.live, readable? value = some (correlation id) := by
  unfold handleFor
  rw [h]
  dsimp only
  cases readable? value with
  | none => simp
  | some identifier =>
      simp only [openFollowUp, Option.bind_some, Option.isSome_map, List.find?_isSome,
        decide_eq_true_eq, Option.some.injEq, eq_comm (a := identifier)]

/-- A request that gets a handle ends no cycle. -/
theorem live_subset_of_handleFor {headers : Headers} {uri : Uri} {canPush : Bool} {handle : Handle}
    (h : ledger.handleFor headers uri canPush = some (handle, ledger')) :
    ledger.live ⊆ ledger'.live := by
  rcases handleFor_eq_some h with ⟨-, -, hopen⟩ | ⟨value, -, -, -, -, rfl⟩
  · obtain ⟨-, rfl⟩ := Prod.mk.inj hopen
    exact List.subset_cons_self ..
  · exact List.Subset.refl _

/-! ## Releasing -/

/-- What the release of a handle does the first time: the cycle of an origin ends, and the push of a
follow-up is complete. -/
def conclude (ledger : Ledger) (handle : Handle) : Ledger :=
  match handle.role with
  | .origin => { ledger with live := ledger.live.filter (· ≠ handle.cycle) }
  | .followUp target => ledger.updateCycle handle.cycle (·.complete target)

/-- The first release of a handle. -/
theorem release_of_not_isReleased {handle : Handle} (h : ledger.isReleased handle = false) :
    ledger.release handle =
      { ledger.conclude handle with released := handle.id :: ledger.released } := by
  unfold release conclude
  rw [if_neg (by simp [h])]
  cases handle.role <;> rfl

/-- A handle that was released before is not released again. -/
theorem release_of_isReleased {handle : Handle} (h : ledger.isReleased handle = true) :
    ledger.release handle = ledger := by
  unfold release
  rw [if_pos h]

@[simp] theorem release_maxPushes (handle : Handle) :
    (ledger.release handle).maxPushes = ledger.maxPushes := by
  unfold release
  split
  · rfl
  · cases handle.role <;> rfl

@[simp] theorem release_pushed (handle : Handle) :
    (ledger.release handle).pushed = ledger.pushed := by
  unfold release
  split
  · rfl
  · cases handle.role <;> rfl

@[simp] theorem release_opened (handle : Handle) :
    (ledger.release handle).opened = ledger.opened := by
  unfold release
  split
  · rfl
  · cases handle.role <;> rfl

@[simp] theorem release_started (handle : Handle) :
    (ledger.release handle).started = ledger.started := by
  unfold release
  split
  · rfl
  · cases handle.role <;> rfl

/-- The first release of an origin ends its cycle. -/
theorem release_live_of_origin {handle : Handle} (h : handle.role = .origin)
    (hfirst : ledger.isReleased handle = false) :
    (ledger.release handle).live = ledger.live.filter (· ≠ handle.cycle) := by
  unfold release
  rw [if_neg (by simp [hfirst]), h]

/-- The release of a follow-up ends no cycle. -/
theorem release_live_of_followUp {handle : Handle} {target : String}
    (h : handle.role = .followUp target) : (ledger.release handle).live = ledger.live := by
  unfold release
  split
  · rfl
  · rw [h]
    rfl

/-- The released handles after a release. -/
theorem mem_release_released {handle : Handle} {number : Nat} :
    number ∈ (ledger.release handle).released ↔ number = handle.id ∨ number ∈ ledger.released := by
  by_cases h : ledger.isReleased handle = true
  · rw [release_of_isReleased h]
    refine ⟨Or.inr, ?_⟩
    rintro (rfl | hmem)
    · simpa [isReleased] using h
    · exact hmem
  · unfold release
    rw [if_neg h]
    cases handle.role <;> simp

/-- The release of an origin leaves every cycle as it is. -/
theorem release_cycles_of_origin {handle : Handle} (h : handle.role = .origin) :
    (ledger.release handle).cycles = ledger.cycles := by
  unfold release
  split
  · rfl
  · rw [h]

/-- The first release of a follow-up completes its push. -/
theorem release_cycles_of_followUp {handle : Handle} {target : String}
    (h : handle.role = .followUp target) (hfirst : ledger.isReleased handle = false) :
    (ledger.release handle).cycles =
      (ledger.updateCycle handle.cycle (·.complete target)).cycles := by
  unfold release
  rw [if_neg (by simp [hfirst]), h]
  rfl

/-- The release of a handle leaves a cycle as it is or completes one of its pushes. -/
theorem release_cycles (handle : Handle) (id : CycleId) :
    (ledger.release handle).cycles id = ledger.cycles id ∨
      ∃ target, (ledger.release handle).cycles id = (ledger.cycles id).complete target := by
  cases hrole : handle.role with
  | origin => exact .inl (by rw [release_cycles_of_origin hrole])
  | followUp target =>
      cases hfirst : ledger.isReleased handle with
      | true => exact .inl (by rw [release_of_isReleased hfirst])
      | false =>
          rw [release_cycles_of_followUp hrole hfirst, updateCycle_cycles]
          by_cases hid : id = handle.cycle
          · rw [if_pos hid]
            exact .inr ⟨target, by rw [hid]⟩
          · rw [if_neg hid]
            exact .inl rfl

/-! ## Pushing -/

/-- A push is entered only if its target was not pushed and the cycle may push. -/
theorem reserve_eq_ok {id : CycleId} {target : String}
    (h : ledger.reserve id target = .ok ledger') :
    target ∉ ledger.pushed ∧
      (∀ limit, ledger.maxPushes = some limit → (ledger.cycles id).pushes < limit) ∧
      ledger' =
        { ledger with pushed := target :: ledger.pushed }.updateCycle id (·.start target) := by
  unfold reserve at h
  by_cases hpushed : ledger.isPushed target = true
  · rw [if_pos hpushed] at h
    cases h
  · rw [if_neg hpushed] at h
    have hnew : target ∉ ledger.pushed := by simpa [isPushed] using hpushed
    cases hlimit : ledger.maxPushes with
    | none =>
        simp only [hlimit, Except.ok.injEq] at h
        exact ⟨hnew, by simp, h.symm⟩
    | some limit =>
        simp only [hlimit] at h
        by_cases hle : limit ≤ (ledger.cycles id).pushes
        · rw [if_pos hle] at h
          cases h
        · rw [if_neg hle] at h
          refine ⟨hnew, ?_, (Except.ok.inj h).symm⟩
          intro other hother
          rw [Option.some.inj hother] at hle
          omega

/-- A push is refused as made before exactly if its target counts as pushed. -/
theorem reserve_eq_alreadyPushed {id : CycleId} {target : String} :
    ledger.reserve id target = .error .alreadyPushed ↔ target ∈ ledger.pushed := by
  have hpushed : ledger.isPushed target = true ↔ target ∈ ledger.pushed := List.contains_iff_mem
  rw [← hpushed]
  unfold reserve
  by_cases h : ledger.isPushed target = true
  · simp [h]
  · rw [if_neg h]
    cases ledger.maxPushes with
    | none => simp [h]
    | some limit =>
        simp only [h]
        split_ifs <;> simp

/-- A push is entered exactly if its target was not pushed and the cycle may push. -/
theorem exists_reserve_eq_ok_iff {id : CycleId} {target : String} :
    (∃ entered, ledger.reserve id target = .ok entered) ↔
      target ∉ ledger.pushed ∧
        ∀ limit, ledger.maxPushes = some limit → (ledger.cycles id).pushes < limit := by
  constructor
  · rintro ⟨entered, hreserve⟩
    obtain ⟨hnew, hbudget, -⟩ := reserve_eq_ok hreserve
    exact ⟨hnew, hbudget⟩
  · rintro ⟨hnew, hbudget⟩
    have hpushed : ¬ledger.isPushed target = true := by simpa [isPushed] using hnew
    unfold reserve
    rw [if_neg hpushed]
    cases hlimit : ledger.maxPushes with
    | none => exact ⟨_, rfl⟩
    | some limit =>
        dsimp only
        rw [if_neg (Nat.not_le.mpr (hbudget limit hlimit))]
        exact ⟨_, rfl⟩

/-- The answer of a transport takes a target off the ledger only if it is that of the push and the
push failed. -/
theorem mem_settle_pushed {id : CycleId} {target other : String} {answer : Answer} :
    other ∈ (ledger.settle id target answer).pushed ↔
      other ∈ ledger.pushed ∧ (other = target → answer.isKept = true) := by
  cases answer with
  | ok => simp [settle, Answer.isKept]
  | error error =>
      cases error <;> simp [settle, forget, Answer.isKept]

/-- The answer of a transport takes a push back unless it was made. -/
theorem settle_cycles {id : CycleId} {target : String} {answer : Answer} :
    (ledger.settle id target answer).cycles =
      if answer.isMade = true then ledger.cycles
      else (ledger.updateCycle id (·.undo target)).cycles := by
  cases answer with
  | ok => rfl
  | error error => cases error <;> rfl

@[simp] theorem settle_maxPushes (id : CycleId) (target : String) (answer : Answer) :
    (ledger.settle id target answer).maxPushes = ledger.maxPushes := by
  cases answer with
  | ok => rfl
  | error error => cases error <;> rfl

@[simp] theorem settle_opened (id : CycleId) (target : String) (answer : Answer) :
    (ledger.settle id target answer).opened = ledger.opened := by
  cases answer with
  | ok => rfl
  | error error => cases error <;> rfl

@[simp] theorem settle_released (id : CycleId) (target : String) (answer : Answer) :
    (ledger.settle id target answer).released = ledger.released := by
  cases answer with
  | ok => rfl
  | error error => cases error <;> rfl

@[simp] theorem settle_live (id : CycleId) (target : String) (answer : Answer) :
    (ledger.settle id target answer).live = ledger.live := by
  cases answer with
  | ok => rfl
  | error error => cases error <;> rfl

@[simp] theorem settle_started (id : CycleId) (target : String) (answer : Answer) :
    (ledger.settle id target answer).started = ledger.started := by
  cases answer with
  | ok => rfl
  | error error => cases error <;> rfl

/-! ## Finishing -/

/-- A wait ends when no push of the cycle is outstanding, by the release of the handle. -/
theorem poll?_eq_some {handle : Handle} (h : ledger.poll? handle = some ledger') :
    (ledger.cycles handle.cycle).outstanding = 0 ∧ ledger' = ledger.release handle := by
  unfold poll? at h
  by_cases hidle : ledger.isIdle handle.cycle = true
  · rw [if_pos hidle] at h
    exact ⟨by simpa [isIdle] using hidle, (Option.some.inj h).symm⟩
  · rw [if_neg hidle] at h
    cases h

/-- A wait ends exactly when no push of the cycle is outstanding. -/
theorem poll?_isSome {handle : Handle} :
    (ledger.poll? handle).isSome = true ↔ (ledger.cycles handle.cycle).outstanding = 0 := by
  unfold poll?
  by_cases h : (ledger.cycles handle.cycle).outstanding = 0 <;> simp [isIdle, h]

/-- A request that does not have to wait releases its handle. -/
theorem finish?_eq_some {handle : Handle} {wait : Bool}
    (h : ledger.finish? handle wait = some ledger') : ledger' = ledger.release handle := by
  unfold finish? at h
  split at h
  · exact (poll?_eq_some h).2
  · exact (Option.some.inj h).symm

/-- Only an origin has to wait. -/
theorem isFollowUp_of_finish?_eq_none {handle : Handle} {wait : Bool}
    (h : ledger.finish? handle wait = none) : handle.isFollowUp = false := by
  unfold finish? at h
  cases hrole : handle.isFollowUp with
  | false => rfl
  | true => simp [hrole] at h

/-- A follow-up does not wait, nor does a request that is not to wait or that was released. -/
theorem finish?_isSome_of_not_waiting {handle : Handle} {wait : Bool}
    (h : handle.isFollowUp = true ∨ wait = false ∨ ledger.isReleased handle = true) :
    (ledger.finish? handle wait).isSome = true := by
  unfold finish?
  rw [if_neg]
  · rfl
  · rcases h with h | h | h <;> simp [h]

/-- An origin that is to wait and was not released finishes as a wait ends. -/
theorem finish?_of_origin {handle : Handle} (hrole : handle.isFollowUp = false)
    (hfirst : ledger.isReleased handle = false) :
    ledger.finish? handle true = ledger.poll? handle := by
  unfold finish?
  rw [if_pos (by simp [hrole, hfirst])]

end Ledger

/-! ## Pushing through a transport -/

/-- The ledger and the transport after a push. -/
theorem push_run {τ : Type} (transport : Transport τ) (id : CycleId) (target : String)
    (headers : Headers) (world : World τ) :
    (push transport id target headers).run world =
      match world.ledger.reserve id target with
      | .error error => (.error error, world)
      | .ok entered =>
        let (answer, called) :=
          (transport target (withCorrelation id headers)).run ⟨entered, world.transport⟩
        (answer, ⟨called.ledger.settle id target answer, called.transport⟩) := by
  cases hreserve : world.ledger.reserve id target with
  | error error =>
      simp only [push, StateT.run_bind, StateT.run_get, pure_bind, hreserve]
      rfl
  | ok entered =>
      simp only [push, StateT.run_bind, StateT.run_get, pure_bind, hreserve]
      rfl

/-- A push that the ledger refuses does not reach the transport. -/
theorem push_of_refused {τ : Type} {transport : Transport τ} {id : CycleId} {target : String}
    {headers : Headers} {world : World τ} {error : PushError}
    (h : world.ledger.reserve id target = .error error) :
    (push transport id target headers).run world = (.error error, world) := by
  rw [push_run, h]

end Hypermedia.Push
