import Mathlib.Data.List.Induction
import Hypermedia.Proofs.Push.Ledger

/-!
# The traffic of a connection

All that the requests of one connection do to its ledger, step by step and in any order.

* `Call` is a push that was handed to the transport, with the answer once there is one.
* `Traffic` is the state of a connection: the ledger, the handles that were given out, the calls of
  the transport and the waits that go on.
* `Event` lists the steps. A push has two of them, one before the transport is called and one after
  it has answered, so that anything may happen in between.
* `Traffic.run` makes any number of steps on a new connection. A step that is not possible changes
  nothing.
* `Traffic.Step` lists what a step can do, and `Traffic.step_cases` says that it does no more.
-/

namespace Hypermedia.Push

/-! ## Calls -/

/-- A push that was handed to the transport. -/
structure Call where
  /-- The handle that the push was made through. -/
  handle : Handle
  /-- The target. -/
  target : String
  /-- The header fields that the transport got. -/
  headers : Headers
  /-- The answer of the transport, unless the call is in progress. -/
  answer : Option Answer

namespace Call

/-- The cycle that the push was made in. -/
def cycle (call : Call) : CycleId :=
  call.handle.cycle

/-- Whether the push was made or is being made. -/
def isLive (call : Call) : Bool :=
  call.answer.all (·.isMade)

/-- Whether the call keeps its target on the ledger: it is in progress, the push was made, or the
transport knew the target as pushed. -/
def holds (call : Call) : Bool :=
  call.answer.all (·.isKept)

/-- A push that was made or is being made keeps its target on the ledger. -/
theorem holds_of_isLive {call : Call} (h : call.isLive = true) : call.holds = true := by
  unfold isLive at h
  unfold holds
  cases hanswer : call.answer with
  | none => rfl
  | some answer =>
      rw [hanswer] at h
      exact Answer.isKept_of_isMade h

/-- The calls that keep their targets on the ledger. -/
theorem holds_iff {call : Call} : call.holds = true ↔
    call.answer = none ∨ call.answer = some (.ok ()) ∨
      call.answer = some (.error .alreadyPushed) := by
  unfold holds
  cases call.answer with
  | none => simp
  | some answer => simp [Answer.isKept_iff]

/-- The calls that do not keep their targets on the ledger have failed. -/
theorem holds_eq_false_iff {call : Call} : call.holds = false ↔
    ∃ error, call.answer = some (.error error) ∧ error ≠ .alreadyPushed := by
  unfold holds
  cases call.answer with
  | none => simp
  | some answer => simp [Answer.isKept_eq_false_iff]

/-- What holds of all calls, and of one of them with its answer, holds of all calls after that
answer. -/
theorem forall_mem_of_answered {P : Call → Prop} {later earlier : List Call} {call answered : Call}
    (h : ∀ other ∈ later ++ call :: earlier, P other) (hanswered : P answered) :
    ∀ other ∈ later ++ answered :: earlier, P other := by
  intro other hother
  simp only [List.mem_append, List.mem_cons] at h hother
  rcases hother with hin | rfl | hin
  · exact h other (.inl hin)
  · exact hanswered
  · exact h other (.inr (.inr hin))

end Call

/-! ## States and steps -/

/-- The state of a connection. -/
structure Traffic where
  /-- The ledger. -/
  ledger : Ledger
  /-- The handles that were given out, the last one first. -/
  handles : List Handle
  /-- The calls of the transport, the last one first. -/
  calls : List Call
  /-- The handles whose requests wait to finish. -/
  waiting : List Handle

/-- A step on a connection. Calls and waits are named by their place in the lists of the state. -/
inductive Event where
  /-- A request comes in. It may start a cycle if there is a transport that can push. -/
  | arrive (headers : Headers) (uri : Uri) (canPush : Bool)
  /-- A request enters the push of a target and calls the transport, unless the ledger refuses. -/
  | push (handle : Handle) (target : String) (headers : Headers)
  /-- The transport answers a call, and the request that made it deals with the answer. -/
  | answer (place : Nat) (answer : Answer)
  /-- A request finishes, or begins to wait for that. -/
  | finish (handle : Handle) (wait : Bool)
  /-- A request that waits tries again. -/
  | poll (place : Nat)
  /-- A wait is given up. -/
  | cancel (place : Nat)
  /-- A handle is dropped. -/
  | drop (handle : Handle)

namespace Traffic

/-- A new connection. -/
def start (maxPushes : Option Nat) : Traffic :=
  ⟨.empty maxPushes, [], [], []⟩

/-- The state after a step. -/
def step (traffic : Traffic) : Event → Traffic
  | .arrive headers uri canPush =>
    match traffic.ledger.handleFor headers uri canPush with
    | none => traffic
    | some (handle, ledger) =>
      { traffic with ledger := ledger, handles := handle :: traffic.handles }
  | .push handle target headers =>
    if handle ∈ traffic.handles then
      match traffic.ledger.reserve handle.cycle target with
      | .error _ => traffic
      | .ok ledger =>
        { traffic with
          ledger := ledger
          calls := ⟨handle, target, withCorrelation handle.cycle headers, none⟩ :: traffic.calls }
    else traffic
  | .answer place answer =>
    match traffic.calls[place]? with
    | some ⟨handle, target, headers, none⟩ =>
      { traffic with
        ledger := traffic.ledger.settle handle.cycle target answer
        calls := traffic.calls.set place ⟨handle, target, headers, some answer⟩ }
    | _ => traffic
  | .finish handle wait =>
    if handle ∈ traffic.handles then
      match traffic.ledger.finish? handle wait with
      | some ledger => { traffic with ledger := ledger }
      | none => { traffic with waiting := handle :: traffic.waiting }
    else traffic
  | .poll place =>
    match traffic.waiting[place]? with
    | none => traffic
    | some handle =>
      match traffic.ledger.poll? handle with
      | none => traffic
      | some ledger =>
        { traffic with ledger := ledger, waiting := traffic.waiting.eraseIdx place }
  | .cancel place => { traffic with waiting := traffic.waiting.eraseIdx place }
  | .drop handle =>
    if handle ∈ traffic.handles then
      { traffic with ledger := traffic.ledger.release handle }
    else traffic

/-- The state of a connection after some steps. -/
def run (maxPushes : Option Nat) (events : List Event) : Traffic :=
  events.foldl step (start maxPushes)

/-- One more step. -/
theorem run_append_singleton (maxPushes : Option Nat) (events : List Event) (event : Event) :
    run maxPushes (events ++ [event]) = (run maxPushes events).step event :=
  List.foldl_append ..

/-- What holds of a new connection and is preserved by each step holds after any steps. -/
theorem run_induction {maxPushes : Option Nat} {P : Traffic → Prop} (hstart : P (start maxPushes))
    (hstep : ∀ traffic event, P traffic → P (traffic.step event)) (events : List Event) :
    P (run maxPushes events) := by
  induction events using List.reverseRecOn with
  | nil => exact hstart
  | append_singleton events event ih =>
      unfold run
      rw [List.foldl_append]
      exact hstep _ event ih

/-! ## What a step can do -/

/-- What a step can do. -/
inductive Step (traffic : Traffic) : Event → Traffic → Prop where
  /-- The ledger stays as it is. Only given handles of origins begin to wait. -/
  | idle (event : Event) (waiting : List Handle)
      (hwaiting : ∀ handle ∈ waiting, handle ∈ traffic.waiting ∨
        handle ∈ traffic.handles ∧ handle.isFollowUp = false) :
      Step traffic event { traffic with waiting := waiting }
  /-- A request gets a handle. -/
  | opened (headers : Headers) (uri : Uri) (canPush : Bool) (handle : Handle) (ledger : Ledger)
      (hopen : traffic.ledger.handleFor headers uri canPush = some (handle, ledger)) :
      Step traffic (.arrive headers uri canPush)
        { traffic with ledger := ledger, handles := handle :: traffic.handles }
  /-- A push is entered, and the transport is called. -/
  | called (handle : Handle) (target : String) (headers : Headers) (ledger : Ledger)
      (hhandle : handle ∈ traffic.handles)
      (hreserve : traffic.ledger.reserve handle.cycle target = .ok ledger) :
      Step traffic (.push handle target headers)
        { traffic with
          ledger := ledger
          calls := ⟨handle, target, withCorrelation handle.cycle headers, none⟩ :: traffic.calls }
  /-- A call in progress is answered. -/
  | answered (place : Nat) (answer : Answer) (later earlier : List Call) (call : Call)
      (hplace : traffic.calls[place]? = some call)
      (hcalls : traffic.calls = later ++ call :: earlier)
      (hpending : call.answer = none) :
      Step traffic (.answer place answer)
        { traffic with
          ledger := traffic.ledger.settle call.cycle call.target answer
          calls := later ++ { call with answer := some answer } :: earlier }
  /-- A handle is released. -/
  | released (event : Event) (handle : Handle) (waiting : List Handle)
      (hhandle : handle ∈ traffic.handles ∨ handle ∈ traffic.waiting)
      (hwaiting : ∀ handle ∈ waiting, handle ∈ traffic.waiting) :
      Step traffic event
        { traffic with ledger := traffic.ledger.release handle, waiting := waiting }

/-- A step that changes nothing. -/
theorem Step.nothing (traffic : Traffic) (event : Event) : Step traffic event traffic :=
  Step.idle event traffic.waiting fun _ h => Or.inl h

/-- A step does nothing but what is listed. -/
theorem step_cases (traffic : Traffic) (event : Event) :
    Step traffic event (traffic.step event) := by
  cases event with
  | arrive headers uri canPush =>
      simp only [step]
      split
      · exact .nothing _ _
      · next handle ledger hopen => exact .opened headers uri canPush handle ledger hopen
  | push handle target headers =>
      simp only [step]
      by_cases hhandle : handle ∈ traffic.handles
      · simp only [hhandle, if_true]
        split
        · exact .nothing _ _
        · next ledger hreserve => exact .called handle target headers ledger hhandle hreserve
      · simp only [hhandle, if_false]
        exact .nothing _ _
  | answer place answer =>
      simp only [step]
      split
      · next handle target headers hplace =>
        obtain ⟨hlt, hget⟩ := List.getElem?_eq_some_iff.mp hplace
        have hcalls : traffic.calls = traffic.calls.take place ++
            ⟨handle, target, headers, none⟩ :: traffic.calls.drop (place + 1) := by
          rw [← hget, ← List.drop_eq_getElem_cons hlt, List.take_append_drop]
        simp only [List.set_eq_take_append_cons_drop, hlt, if_true]
        exact .answered place answer _ _ ⟨handle, target, headers, none⟩ hplace hcalls rfl
      · exact .nothing _ _
  | finish handle wait =>
      simp only [step]
      by_cases hhandle : handle ∈ traffic.handles
      · simp only [hhandle, if_true]
        cases hfinish : traffic.ledger.finish? handle wait with
        | some ledger =>
            rw [Ledger.finish?_eq_some hfinish]
            exact .released _ handle traffic.waiting (.inl hhandle) fun _ h => h
        | none =>
            refine .idle _ _ fun other hother => ?_
            rcases List.mem_cons.mp hother with rfl | hold
            · exact .inr ⟨hhandle, Ledger.isFollowUp_of_finish?_eq_none hfinish⟩
            · exact .inl hold
      · simp only [hhandle, if_false]
        exact .nothing _ _
  | poll place =>
      simp only [step]
      split
      · exact .nothing _ _
      · next handle hplace =>
        split
        · exact .nothing _ _
        · next ledger hpoll =>
          rw [(Ledger.poll?_eq_some hpoll).2]
          exact .released _ handle _ (.inr (List.mem_of_getElem? hplace))
            fun _ h => List.mem_of_mem_eraseIdx h
  | cancel place =>
      exact .idle _ _ fun handle h => .inl (List.mem_of_mem_eraseIdx h)
  | drop handle =>
      simp only [step]
      by_cases hhandle : handle ∈ traffic.handles
      · simp only [hhandle, if_true]
        exact .released _ handle traffic.waiting (.inl hhandle) fun _ h => h
      · simp only [hhandle, if_false]
        exact .nothing _ _

end Traffic

end Hypermedia.Push
