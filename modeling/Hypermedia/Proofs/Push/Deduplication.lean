import Hypermedia.Proofs.Delivery.Responses
import Hypermedia.Proofs.Push.AtMostOnce

/-!
# Pushes that are answered as made before

A request that finds a target on the ledger neither pushes it nor advertises it by a link: it relies
on the push that put the target there. That push may still be in the transport, and when it fails
there, the target is taken off the ledger again.

* `Traffic.call?` numbers the calls of the transport in the order they were made, so that a call can be
  followed through later steps: `Traffic.exists_call?_append` says that it stays or is answered.
* `Traffic.known?` is the target of the push that a step answers as made before.
* `Traffic.isPushed_of_known` says how long such a target stays on the ledger, and
  `Traffic.not_isPushed_of_known` that it need not stay there.
-/

namespace Hypermedia.Push

open Delivery (deliver isNeverPushed)

/-! ## Calls over time -/

/-- What may have become of a call: nothing, or it was answered. -/
inductive Call.Later (call : Call) : Call → Prop where
  /-- It is as it was. -/
  | same : Later call call
  /-- It was in progress, and was answered. -/
  | answered (hpending : call.answer = none) (answer : Answer) :
      Later call { call with answer := some answer }

/-- What becomes of a call later on becomes of it. -/
theorem Call.Later.trans {call next last : Call} (h : call.Later next) (hnext : next.Later last) :
    call.Later last := by
  cases h with
  | same => exact hnext
  | answered hpending answer =>
      cases hnext with
      | same => exact .answered hpending answer
      | answered hnone => cases hnone

namespace Traffic

/-- The calls of the transport, numbered in the order they were made. -/
def call? (traffic : Traffic) (number : Nat) : Option Call :=
  traffic.calls.reverse[number]?

variable {traffic : Traffic}

/-- Every call has a number. -/
theorem exists_call?_of_mem {call : Call} (h : call ∈ traffic.calls) :
    ∃ number, traffic.call? number = some call :=
  List.mem_iff_getElem?.mp (List.mem_reverse.mpr h)

/-- What has a number is a call. -/
theorem mem_of_call? {number : Nat} {call : Call} (h : traffic.call? number = some call) :
    call ∈ traffic.calls :=
  List.mem_reverse.mp (List.mem_of_getElem? h)

/-- In a step a call stays or is answered. -/
theorem exists_call?_step {number : Nat} {call : Call} (h : traffic.call? number = some call)
    (event : Event) : ∃ next, (traffic.step event).call? number = some next ∧ call.Later next := by
  unfold call? at h ⊢
  have hstep := traffic.step_cases event
  generalize traffic.step event = next at hstep
  cases hstep with
  | idle | opened | released => exact ⟨call, h, .same⟩
  | called handle target headers ledger hhandle hreserve =>
      refine ⟨call, ?_, .same⟩
      rw [List.reverse_cons, List.getElem?_append_left (List.getElem?_eq_some_iff.mp h).1]
      exact h
  | answered place answer later earlier other hplace hcalls hpending =>
      have hset : (later ++ { other with answer := some answer } :: earlier).reverse =
          traffic.calls.reverse.set earlier.reverse.length { other with answer := some answer } := by
        rw [hcalls]
        simp
      rw [hset]
      by_cases hnumber : number = earlier.reverse.length
      · subst hnumber
        have hcall : call = other := by simpa [hcalls] using h.symm
        subst hcall
        exact ⟨_, List.getElem?_set_self (List.getElem?_eq_some_iff.mp h).1,
          .answered hpending answer⟩
      · refine ⟨call, ?_, .same⟩
        rw [List.getElem?_set_ne (Ne.symm hnumber)]
        exact h

/-- In any steps a call stays or is answered. -/
theorem exists_call?_append {maxPushes : Option Nat} {before : List Event} {number : Nat}
    {call : Call} (h : (run maxPushes before).call? number = some call) (after : List Event) :
    ∃ later, (run maxPushes (before ++ after)).call? number = some later ∧ call.Later later := by
  induction after using List.reverseRecOn with
  | nil => exact ⟨call, by simpa using h, .same⟩
  | append_singleton after event ih =>
      obtain ⟨next, hnext, hlater⟩ := ih
      obtain ⟨last, hlast, hstep⟩ := exists_call?_step hnext event
      refine ⟨last, ?_, hlater.trans hstep⟩
      rw [← List.append_assoc, run_append_singleton]
      exact hlast

/-! ## Targets that are known -/

/-- The target of the push that a step answers as made before: the ledger finds it among the pushed
ones, or the transport says that it knows it. -/
def known? (traffic : Traffic) : Event → Option String
  | .push handle target _ =>
    if handle ∈ traffic.handles then
      match traffic.ledger.reserve handle.cycle target with
      | .error .alreadyPushed => some target
      | _ => none
    else none
  | .answer place (.error .alreadyPushed) =>
    match traffic.calls[place]? with
    | some ⟨_, target, _, none⟩ => some target
    | _ => none
  | _ => none

/-- A step that answers a push as made before relies on a call that holds the target. If that call is
in progress after the step, then it was before. -/
theorem exists_call_of_known {maxPushes : Option Nat} {before : List Event} {event : Event}
    {target : String} (h : (run maxPushes before).known? event = some target) :
    ∃ number call, ((run maxPushes before).step event).call? number = some call ∧
      call.target = target ∧ call.holds = true ∧
      (call.answer = none → (run maxPushes before).call? number = some call) := by
  have hinv := oncePerTarget_run maxPushes before
  generalize run maxPushes before = traffic at h hinv
  unfold known? at h
  split at h
  next handle _ headers =>
    split_ifs at h with hhandle
    split at h
    next hreserve =>
      cases h
      obtain ⟨call, hcall, htarget, hholds⟩ :=
        (hinv.mem_pushed_iff target).mp (Ledger.reserve_eq_alreadyPushed.mp hreserve)
      obtain ⟨number, hnumber⟩ := exists_call?_of_mem hcall
      have hstep : traffic.step (.push handle target headers) = traffic := by
        simp only [step, hhandle, if_true, hreserve]
      rw [hstep]
      exact ⟨number, call, hnumber, htarget, hholds, fun _ => hnumber⟩
    next => cases h
  next place =>
    split at h
    next handle _ headers hplace =>
      cases h
      have hcall : ⟨handle, target, headers, some (.error .alreadyPushed)⟩ ∈
          (traffic.step (.answer place (.error .alreadyPushed))).calls := by
        simp only [step, hplace]
        exact List.mem_set (List.getElem?_eq_some_iff.mp hplace).1 _
      obtain ⟨number, hnumber⟩ := exists_call?_of_mem hcall
      exact ⟨number, _, hnumber, rfl, rfl, fun hnone => absurd hnone (Option.some_ne_none _)⟩
    next => cases h
  next => cases h

/-- A call that holds its target does so later on, unless it was in progress and has failed. -/
theorem isPushed_or_failed {maxPushes : Option Nat} {before : List Event} {number : Nat}
    {call : Call} (h : (run maxPushes before).call? number = some call)
    (hholds : call.holds = true) (after : List Event) :
    (run maxPushes (before ++ after)).ledger.isPushed call.target = true ∨
      ∃ error, call.answer = none ∧ error ≠ .alreadyPushed ∧
        (run maxPushes (before ++ after)).call? number =
          some { call with answer := some (.error error) } := by
  obtain ⟨later, hlater, hbecome⟩ := exists_call?_append h after
  cases hheld : later.holds with
  | true =>
      have htarget : later.target = call.target := by cases hbecome <;> rfl
      refine .inl (List.contains_iff_mem.mpr ?_)
      exact ((oncePerTarget_run maxPushes (before ++ after)).mem_pushed_iff _).mpr
        ⟨later, mem_of_call? hlater, htarget, hheld⟩
  | false =>
      obtain ⟨error, hanswer, herror⟩ := Call.holds_eq_false_iff.mp hheld
      cases hbecome with
      | same =>
          rw [hheld] at hholds
          cases hholds
      | answered hpending answer =>
          cases hanswer
          exact .inr ⟨error, hpending, herror, hlater⟩

/-- **What a push that is answered as made before relies on.** When a push of a target is answered so,
the target stays on the ledger, unless a call for it that was in progress then has failed since: from
then on the target may be missing. And a response whose push is answered so has no link for the
relation. -/
theorem isPushed_of_known {maxPushes : Option Nat} {before : List Event} {event : Event}
    {target : String} (hknown : (run maxPushes before).known? event = some target) :
    (∀ after,
      (run maxPushes (before ++ event :: after)).ledger.isPushed target = true ∨
        ∃ number call error, (run maxPushes before).call? number = some call ∧
          call.target = target ∧ call.answer = none ∧ error ≠ .alreadyPushed ∧
          (run maxPushes (before ++ event :: after)).call? number =
            some { call with answer := some (.error error) }) ∧
      ∀ {σ : Type} (settings : Settings) (pusher : Pusher σ) (headers : Headers)
        (relation : Relation) (world world' : σ), isNeverPushed settings relation = false →
        (pusher relation.text headers).run world = (.error .alreadyPushed, world') →
        (deliver settings (some pusher) headers relation).run world = (none, world') := by
  constructor
  · intro after
    obtain ⟨number, call, hcall, rfl, hholds, hbefore⟩ := exists_call_of_known hknown
    rw [← run_append_singleton] at hcall
    rw [List.append_cons]
    rcases isPushed_or_failed hcall hholds after with hpushed | ⟨error, hpending, herror, hlater⟩
    · exact .inl hpushed
    · exact .inr ⟨number, call, error, hbefore hpending, rfl, hpending, herror, hlater⟩
  · intro σ settings pusher headers relation world world' hpush hanswer
    rw [deliver_run_of_pusher hpush, hanswer]
    rfl

/-- Two requests of one connection, of which the first has called the transport for a target. -/
def sharedTarget : List Event :=
  [.arrive ⟨[]⟩ ⟨none, none, "/books/1", none⟩ true,
    .arrive ⟨[]⟩ ⟨none, none, "/books/2", none⟩ true,
    .push ⟨0, 0, .origin⟩ "/orders/1" ⟨[]⟩]

/-- The relation that both requests find. -/
def sharedRelation : Relation :=
  ⟨{ Resolver.localOrigin with path := .rooted ["orders", "1"] }, true, false, false⟩

/-- The second request relies on the push of the first, which is made. -/
theorem isPushed_of_known_shared :
    (run none sharedTarget).known? (.push ⟨1, 1, .origin⟩ "/orders/1" ⟨[]⟩) = some "/orders/1" ∧
      (run none (sharedTarget ++ .push ⟨1, 1, .origin⟩ "/orders/1" ⟨[]⟩ ::
        [.answer 0 (.ok ())])).ledger.isPushed "/orders/1" = true ∧
      (deliver {} (some (push (fun _ _ => pure (.ok ())) 1)) ⟨[]⟩ sharedRelation).run
        (World.mk (run none sharedTarget).ledger ()) =
          (none, World.mk (run none sharedTarget).ledger ()) := by
  have hknown : (run none sharedTarget).known? (.push ⟨1, 1, .origin⟩ "/orders/1" ⟨[]⟩) =
      some "/orders/1" := by decide
  have hanswer : (push (fun _ _ => pure (.ok ())) 1 sharedRelation.text ⟨[]⟩).run
      (World.mk (run none sharedTarget).ledger ()) =
        (.error .alreadyPushed, World.mk (run none sharedTarget).ledger ()) := rfl
  obtain ⟨hlater, hresponse⟩ := isPushed_of_known hknown
  refine ⟨hknown, ?_, hresponse {} _ ⟨[]⟩ sharedRelation _ _ rfl hanswer⟩
  rcases hlater [.answer 0 (.ok ())] with hpushed | ⟨number, call, error, -, -, -, -, hfailed⟩
  · exact hpushed
  · have hmade : ∀ call ∈ (run none (sharedTarget ++
        .push ⟨1, 1, .origin⟩ "/orders/1" ⟨[]⟩ :: [.answer 0 (.ok ())])).calls,
        call.answer = some (.ok ()) := by decide
    cases hmade _ (mem_of_call? hfailed)

/-- A target that is known need not stay on the ledger: the push that the second request relies on
fails, no call is in progress, and the target is not pushed. -/
theorem not_isPushed_of_known :
    ∃ before event target after,
      (run none before).known? event = some target ∧
      (∀ call ∈ (run none (before ++ event :: after)).calls, call.answer.isSome = true) ∧
      (run none (before ++ event :: after)).ledger.isPushed target = false :=
  ⟨sharedTarget, .push ⟨1, 1, .origin⟩ "/orders/1" ⟨[]⟩, "/orders/1",
    [.answer 0 (.error (.transport "refused stream"))], by decide, by decide, by decide⟩

end Traffic

end Hypermedia.Push
