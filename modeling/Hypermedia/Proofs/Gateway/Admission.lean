import Mathlib.Data.List.Basic
import Mathlib.Tactic.Common
import Hypermedia.Gateway.Admission

/-!
# What calls and tasks hold

The permits, senders and receivers of a server, and who holds them.

* `Server.Moves` is what an event can do to a server, `Server.step_cases` that there is nothing
  else.
* `Server.Accounted` says that every permit, sender and receiver is held by someone or given back. It
  is kept by a step (`Server.Accounted.step`) and by a run (`Server.accounted_run`).
-/

namespace Hypermedia.Admission

/-- Putting an item in the place of another changes a count by the two items. -/
theorem countP_set_add {α : Type} (p : α → Bool) {items : List α} {i : Nat} {old : α}
    (h : items[i]? = some old) (new : α) :
    (items.set i new).countP p + (p old).toNat = items.countP p + (p new).toNat := by
  induction items generalizing i with
  | nil => simp at h
  | cons item rest ih =>
      cases i with
      | zero =>
          obtain rfl := Option.some.inj h
          rw [List.set_cons_zero, List.countP_cons, List.countP_cons]
          cases p item <;> cases p new <;> simp
      | succ i =>
          have hrest := ih (i := i) (by simpa using h)
          rw [List.set_cons_succ, List.countP_cons, List.countP_cons]
          omega

namespace Server

variable {server after : Server} {event : Event}

/-! ## What an event can do -/

/-- What an event does to a server where it does anything. -/
inductive Moves (server : Server) : Event → Server → Prop
  /-- A stream is served. -/
  | serve : Moves server .serve server.serve
  /-- A call turns away from its stream. -/
  | leave {call : Nat} {next : Next} {found : Call} (hfound : server.calls[call]? = some found)
      (hstage : found.stage = .accepting) (h : server.stopping = true ∨ next = .exhausted) :
      Moves server (.poll call next) (server.put call found.leave)
  /-- A call takes a connection. -/
  | take {call : Nat} {found : Call} (hfound : server.calls[call]? = some found)
      (hstage : found.stage = .accepting) (h : server.stopping = false) :
      Moves server (.poll call .connection) (server.put call found.take)
  /-- A connection is served. -/
  | accept {call : Nat} {found : Call} (hfound : server.calls[call]? = some found)
      (hstage : found.stage = .admitting) (h : 0 < server.free) :
      Moves server (.acquire call) (server.accept call found)
  /-- A connection is refused. -/
  | refuse {call : Nat} {found : Call} (hfound : server.calls[call]? = some found)
      (hstage : found.stage = .admitting) (h : server.free = 0) :
      Moves server (.acquire call) (server.put call found.refuse)
  /-- A call turns to the next connection. -/
  | resume {call : Nat} {found : Call} {answer : String} (hfound : server.calls[call]? = some found)
      (hstage : found.stage = .refusing answer) :
      Moves server (.resume call) (server.put call found.resume)
  /-- A call returns. -/
  | settle {call : Nat} {found : Call} (hfound : server.calls[call]? = some found)
      (hstage : found.stage = .draining) (h : found.senders = 0) :
      Moves server (.settle call)
        { server.put call found.finish with receivers := server.receivers - 1 }
  /-- A call is given up. -/
  | drop {call : Nat} {found : Call} (hfound : server.calls[call]? = some found)
      (h : found.isRunning = true) :
      Moves server (.drop call)
        { server.put call found.drop with receivers := server.receivers - 1 }
  /-- A task gives its permit back. -/
  | release {task : Nat} {found : Task} (hfound : server.tasks[task]? = some found)
      (hstage : found.stage = .serving) :
      Moves server (.part task)
        { server.replace task { found with stage := .released } with free := server.free + 1 }
  /-- A task gives its sender back. -/
  | detach {task : Nat} {found : Task} {call : Call} (hfound : server.tasks[task]? = some found)
      (hstage : found.stage = .released) (hcall : server.calls[found.call]? = some call) :
      Moves server (.part task)
        ((server.put found.call call.loseSender).replace task { found with stage := .detached })
  /-- A task gives its receiver back. -/
  | vanish {task : Nat} {found : Task} (hfound : server.tasks[task]? = some found)
      (hstage : found.stage = .detached) :
      Moves server (.part task)
        { server.replace task { found with stage := .gone } with receivers := server.receivers - 1 }
  /-- The server is asked to stop. -/
  | stop : Moves server .stop server.stop
  /-- A request to stop returns. -/
  | settleStop {request : Nat} (h : server.receivers = 0) :
      Moves server (.settleStop request) { server with stops := server.stops.set request true }

/-- What an event may leave of a server: the server itself, or what it does to it. -/
def Outcome (server : Server) (event : Event) (after : Server) : Prop :=
  after = server ∨ server.Moves event after

/-- What is done with a call. -/
theorem withCall_eq {call : Nat} {found : Call} (hfound : server.calls[call]? = some found)
    (action : Call → Server) : server.withCall call action = action found := by
  unfold withCall
  rw [hfound]

/-- Nothing happens to a call that does not exist. -/
theorem outcome_withCall {call : Nat} {action : Call → Server}
    (h : ∀ found, server.calls[call]? = some found → server.Outcome event (action found)) :
    server.Outcome event (server.withCall call action) := by
  cases hfound : server.calls[call]? with
  | none =>
      unfold withCall
      rw [hfound]
      exact .inl rfl
  | some found =>
      rw [withCall_eq hfound]
      exact h found hfound

theorem poll_cases (server : Server) (call : Nat) (next : Next) :
    server.Outcome (.poll call next) (server.poll call next) := by
  refine outcome_withCall fun found hfound => ?_
  split_ifs with hstage hstopping
  · exact .inr (.leave hfound hstage (.inl hstopping))
  · rw [Bool.not_eq_true] at hstopping
    cases next with
    | pending => exact .inl rfl
    | connection => exact .inr (.take hfound hstage hstopping)
    | failure => exact .inl rfl
    | exhausted => exact .inr (.leave hfound hstage (.inr rfl))
  · exact .inl rfl

theorem acquire_cases (server : Server) (call : Nat) :
    server.Outcome (.acquire call) (server.acquire call) := by
  refine outcome_withCall fun found hfound => ?_
  split_ifs with hstage hfree
  · exact .inr (.refuse hfound hstage hfree)
  · exact .inr (.accept hfound hstage (Nat.pos_of_ne_zero hfree))
  · exact .inl rfl

theorem resume_cases (server : Server) (call : Nat) :
    server.Outcome (.resume call) (server.resume call) := by
  refine outcome_withCall fun found hfound => ?_
  split
  · next answer hstage => exact .inr (.resume hfound hstage)
  · exact .inl rfl

theorem settle_cases (server : Server) (call : Nat) :
    server.Outcome (.settle call) (server.settle call) := by
  refine outcome_withCall fun found hfound => ?_
  split_ifs with h
  · rw [Bool.and_eq_true, decide_eq_true_eq, decide_eq_true_eq] at h
    exact .inr (.settle hfound h.1 h.2)
  · exact .inl rfl

theorem drop_cases (server : Server) (call : Nat) :
    server.Outcome (.drop call) (server.drop call) := by
  refine outcome_withCall fun found hfound => ?_
  split_ifs with h
  · exact .inr (.drop hfound h)
  · exact .inl rfl

theorem part_cases (server : Server) (task : Nat) :
    server.Outcome (.part task) (server.part task) := by
  unfold part
  cases hfound : server.tasks[task]? with
  | none => exact .inl rfl
  | some found =>
      dsimp only
      split
      · next hstage => exact .inr (.release hfound hstage)
      · next hstage =>
        exact outcome_withCall fun call hcall => .inr (.detach hfound hstage hcall)
      · next hstage => exact .inr (.vanish hfound hstage)
      · exact .inl rfl

theorem settleStop_cases (server : Server) (request : Nat) :
    server.Outcome (.settleStop request) (server.settleStop request) := by
  unfold settleStop
  split_ifs with h
  · exact .inr (.settleStop h)
  · exact .inl rfl

/-- An event does nothing, or one of the things that it can do. -/
theorem step_cases (server : Server) (event : Event) :
    server.Outcome event (server.step event) := by
  cases event with
  | serve => exact .inr .serve
  | poll call next => exact server.poll_cases call next
  | acquire call => exact server.acquire_cases call
  | resume call => exact server.resume_cases call
  | settle call => exact server.settle_cases call
  | drop call => exact server.drop_cases call
  | part task => exact server.part_cases task
  | stop => exact .inr .stop
  | settleStop request => exact server.settleStop_cases request

/-- What every step keeps, a run keeps. -/
theorem run_induction {P : Server → Prop} (hstep : ∀ server event, P server → P (server.step event))
    (events : List Event) (h : P server) : P (server.run events) := by
  induction events generalizing server with
  | nil => exact h
  | cons event rest ih => exact ih (hstep server event h)

/-! ## Who holds what -/

/-- The tasks that hold a sender of a call. -/
def attached (server : Server) (call : Nat) : Nat :=
  server.tasks.countP (Task.isAttached call)

/-- The tasks that hold a receiver. -/
def left (server : Server) : Nat :=
  server.tasks.countP Task.isLeft

/-- The calls that hold a receiver. -/
def running (server : Server) : Nat :=
  server.calls.countP Call.isRunning

/-- A call is where it was, or it was put there. -/
theorem getElem?_put {call other : Nat} {new found : Call}
    (h : (server.put call new).calls[other]? = some found) :
    server.calls[other]? = some found ∧ other ≠ call ∨ other = call ∧ found = new := by
  unfold put at h
  dsimp only at h
  rw [List.getElem?_set] at h
  split_ifs at h with hsame
  · exact .inr ⟨hsame.symm, (Option.some.inj h).symm⟩
  · exact .inl ⟨h, Ne.symm hsame⟩

/-- A call that was put somewhere is there. -/
theorem getElem?_put_self {call : Nat} {found : Call} (hfound : server.calls[call]? = some found)
    (new : Call) : (server.put call new).calls[call]? = some new :=
  List.getElem?_set_self (List.getElem?_eq_some_iff.mp hfound).1

/-- Every permit, sender and receiver is held by someone or given back. -/
structure Accounted (maxConnections : Nat) (server : Server) : Prop where
  /-- Each permit is free or held by a task that serves a connection. -/
  permits : server.serving + server.free = maxConnections
  /-- The senders of a call are its own, while it may take connections, and those of tasks. -/
  senders : ∀ call found, server.calls[call]? = some found →
    found.senders = found.isTaking.toNat + server.attached call
  /-- The receivers are those of calls and those of tasks. -/
  receivers : server.receivers = server.running + server.left
  /-- No task holds a sender of a call that has returned. -/
  returned : ∀ call found, server.calls[call]? = some found → found.stage = .returned →
    server.attached call = 0
  /-- Each task is that of a call. -/
  known : ∀ task ∈ server.tasks, task.call < server.calls.length

namespace Accounted

variable {maxConnections : Nat}

theorem start (maxConnections : Nat) : (Server.start maxConnections).Accounted maxConnections where
  permits := Nat.zero_add _
  senders call found h := by cases h
  receivers := rfl
  returned call found h := by cases h
  known task h := by cases h

/-- No task holds a sender of a call that has not begun. -/
theorem attached_eq_zero (h : server.Accounted maxConnections) {call : Nat}
    (hcall : server.calls.length ≤ call) : server.attached call = 0 := by
  unfold attached
  rw [List.countP_eq_zero]
  intro task htask
  have hlt := h.known task htask
  unfold Task.isAttached
  simp only [Bool.and_eq_true, decide_eq_true_eq, not_and]
  intro hsame
  omega

/-- A new stream holds a sender and a receiver. -/
theorem serve (h : server.Accounted maxConnections) : server.serve.Accounted maxConnections := by
  have hcalls : ∀ call found, server.serve.calls[call]? = some found →
      server.calls[call]? = some found ∨ found = .start ∧ server.attached call = 0 := by
    intro call found hfound
    unfold Server.serve at hfound
    dsimp only at hfound
    rw [List.getElem?_append] at hfound
    split_ifs at hfound with hlt
    · exact .inl hfound
    · rw [List.getElem?_singleton] at hfound
      split_ifs at hfound
      exact .inr ⟨(Option.some.inj hfound).symm, h.attached_eq_zero (Nat.le_of_not_lt hlt)⟩
  refine ⟨h.permits, fun call found hfound => ?_, ?_, fun call found hfound hstage => ?_,
    fun task htask => ?_⟩
  · rcases hcalls call found hfound with hold | ⟨rfl, hnone⟩
    · exact h.senders call found hold
    · exact congrArg (1 + ·) hnone.symm
  · have hreceivers := h.receivers
    unfold Server.serve running left
    unfold running left at hreceivers
    rw [List.countP_append]
    have hstart : [Call.start].countP Call.isRunning = 1 := rfl
    dsimp only
    omega
  · rcases hcalls call found hfound with hold | ⟨rfl, -⟩
    · exact h.returned call found hold hstage
    · cases hstage
  · have hlt := h.known task htask
    unfold Server.serve
    rw [List.length_append]
    omega

/-- A call changes, with what it holds. -/
theorem put (h : server.Accounted maxConnections) {call : Nat} {old new : Call} {receivers : Nat}
    (hold : server.calls[call]? = some old)
    (hsenders : new.senders + old.isTaking.toNat = old.senders + new.isTaking.toNat)
    (hreceivers : receivers + old.isRunning.toNat = server.receivers + new.isRunning.toNat)
    (hreturned : new.stage = .returned → server.attached call = 0) :
    { server.put call new with receivers := receivers }.Accounted maxConnections := by
  refine ⟨h.permits, fun other found hfound => ?_, ?_, fun other found hfound hstage => ?_,
    fun task htask => ?_⟩
  · rcases getElem?_put hfound with ⟨hother, -⟩ | ⟨rfl, rfl⟩
    · exact h.senders other found hother
    · have hbefore := h.senders other old hold
      change found.senders = found.isTaking.toNat + server.attached other
      omega
  · have hbefore := h.receivers
    have hcount := countP_set_add Call.isRunning hold new
    change receivers = (server.calls.set call new).countP Call.isRunning + server.left
    unfold running at hbefore
    omega
  · rcases getElem?_put hfound with ⟨hother, -⟩ | ⟨rfl, rfl⟩
    · exact h.returned other found hother hstage
    · exact hreturned hstage
  · have hlt := h.known task htask
    unfold Server.put
    rwa [List.length_set]

/-- One more task holds a permit, a sender and a receiver. -/
theorem accept (h : server.Accounted maxConnections) {call : Nat} {found : Call}
    (hfound : server.calls[call]? = some found) (hstage : found.stage = .admitting)
    (hfree : 0 < server.free) : (server.accept call found).Accounted maxConnections := by
  have htaking : found.isTaking = true := by
    unfold Call.isTaking
    rw [hstage]
  have hattached : ∀ other, (server.accept call found).attached other =
      server.attached other + (decide (call = other)).toNat := by
    intro other
    unfold Server.accept attached
    rw [List.countP_append, List.countP_singleton]
    cases hsame : decide (call = other) <;> simp [Task.isAttached, hsame]
  refine ⟨?_, fun other new hnew => ?_, ?_, fun other new hnew hreturned => ?_,
    fun task htask => ?_⟩
  · have hbefore := h.permits
    unfold Server.accept serving
    unfold serving at hbefore
    rw [List.countP_append]
    have htask : [Task.mk call .serving].countP Task.isServing = 1 := rfl
    dsimp only
    omega
  · rw [hattached]
    rcases getElem?_put hnew with ⟨hother, hne⟩ | ⟨rfl, rfl⟩
    · rw [decide_eq_false (Ne.symm hne)]
      exact h.senders other new hother
    · have hbefore := h.senders other found hfound
      rw [htaking, Bool.toNat_true] at hbefore
      rw [decide_eq_true rfl]
      unfold Call.handOver Call.isTaking
      dsimp only [Bool.toNat_true]
      omega
  · have hbefore := h.receivers
    have hcount := countP_set_add Call.isRunning hfound found.handOver
    have hrunning : found.isRunning = true := by
      unfold Call.isRunning
      rw [hstage]
    have htask : [Task.mk call .serving].countP Task.isLeft = 1 := rfl
    rw [hrunning] at hcount
    unfold Server.accept running left
    unfold running left at hbefore
    unfold Server.put
    rw [List.countP_append]
    change server.receivers + 1 = (server.calls.set call found.handOver).countP Call.isRunning + _
    change _ + 1 = _ + 1 at hcount
    omega
  · rw [hattached]
    rcases getElem?_put hnew with ⟨hother, hne⟩ | ⟨rfl, rfl⟩
    · rw [decide_eq_false (Ne.symm hne)]
      exact h.returned other new hother hreturned
    · cases hreturned
  · unfold Server.accept Server.put at htask ⊢
    dsimp only at htask ⊢
    rw [List.length_set]
    rcases List.mem_append.mp htask with hold | hnew
    · exact h.known task hold
    · rw [List.mem_singleton.mp hnew]
      exact (List.getElem?_eq_some_iff.mp hfound).1

/-- A task gives something back that is no sender. -/
theorem replace (h : server.Accounted maxConnections) {task : Nat} {old new : Task}
    {free receivers : Nat} (hold : server.tasks[task]? = some old) (hcall : new.call = old.call)
    (hfree : new.isServing.toNat + free = old.isServing.toNat + server.free)
    (hattached : ∀ call, new.isAttached call = old.isAttached call)
    (hreceivers : receivers + old.isLeft.toNat = server.receivers + new.isLeft.toNat) :
    { server.replace task new with free := free, receivers := receivers }.Accounted
      maxConnections := by
  have hsame : ∀ call, (server.replace task new).attached call = server.attached call := by
    intro call
    have hcount := countP_set_add (Task.isAttached call) hold new
    rw [hattached] at hcount
    exact Nat.add_right_cancel hcount
  refine ⟨?_, fun call found hfound => ?_, ?_, fun call found hfound hstage => ?_,
    fun other hother => ?_⟩
  · have hbefore := h.permits
    have hcount := countP_set_add Task.isServing hold new
    unfold serving at hbefore
    change (server.tasks.set task new).countP Task.isServing + free = maxConnections
    omega
  · exact (h.senders call found hfound).trans (congrArg (_ + ·) (hsame call).symm)
  · have hbefore := h.receivers
    have hcount := countP_set_add Task.isLeft hold new
    unfold left at hbefore
    change receivers = server.running + (server.tasks.set task new).countP Task.isLeft
    omega
  · exact (hsame call).trans (h.returned call found hfound hstage)
  · rcases List.mem_or_eq_of_mem_set hother with hmem | rfl
    · exact h.known other hmem
    · rw [hcall]
      exact h.known old (List.mem_of_getElem? hold)

/-- A task gives its sender back, which its call loses. -/
theorem detach (h : server.Accounted maxConnections) {task : Nat} {old : Task} {call : Call}
    (hold : server.tasks[task]? = some old) (hstage : old.stage = .released)
    (hcall : server.calls[old.call]? = some call) :
    ((server.put old.call call.loseSender).replace task
      { old with stage := .detached }).Accounted maxConnections := by
  have hcount : ∀ p, (server.tasks.set task { old with stage := .detached }).countP p +
      (p old).toNat = server.tasks.countP p + (p { old with stage := .detached }).toNat :=
    fun p => countP_set_add p hold _
  have hattached : ∀ other, (server.tasks.set task { old with stage := .detached }).countP
      (Task.isAttached other) + (decide (old.call = other)).toNat = server.attached other := by
    intro other
    have hother := hcount (Task.isAttached other)
    have hbefore : old.isAttached other = decide (old.call = other) := by
      simp [Task.isAttached, hstage]
    have hafter : Task.isAttached other { old with stage := .detached } = false := by
      simp [Task.isAttached]
    rwa [hbefore, hafter] at hother
  refine ⟨?_, fun other found hfound => ?_, ?_, fun other found hfound hreturned => ?_,
    fun other hother => ?_⟩
  · have hserving := hcount Task.isServing
    have hbefore : old.isServing = false := by simp [Task.isServing, hstage]
    rw [hbefore] at hserving
    exact (congrArg (· + server.free) hserving).trans h.permits
  · have hother := hattached other
    change found.senders = found.isTaking.toNat + (server.tasks.set task _).countP _
    rcases getElem?_put hfound with ⟨hother', hne⟩ | ⟨rfl, rfl⟩
    · rw [decide_eq_false (Ne.symm hne)] at hother
      exact (h.senders other found hother').trans (congrArg (_ + ·) hother.symm)
    · have hbefore := h.senders old.call call hcall
      rw [decide_eq_true rfl, Bool.toNat_true] at hother
      change call.senders - 1 = call.isTaking.toNat + _
      omega
  · have hleft := hcount Task.isLeft
    have hrunning := countP_set_add Call.isRunning hcall call.loseSender
    have hbefore : old.isLeft = true := by simp [Task.isLeft, hstage]
    rw [hbefore] at hleft
    have hreceivers := h.receivers
    unfold running left at hreceivers
    change server.receivers = (server.calls.set old.call call.loseSender).countP Call.isRunning +
      (server.tasks.set task { old with stage := .detached }).countP Task.isLeft
    change _ = _ + (call.isRunning).toNat at hrunning
    change _ + 1 = _ + 1 at hleft
    omega
  · have hother := hattached other
    change (server.tasks.set task _).countP _ = 0
    have hnone : server.attached other = 0 := by
      rcases getElem?_put hfound with ⟨hother', -⟩ | ⟨rfl, rfl⟩
      · exact h.returned other found hother' hreturned
      · exact h.returned old.call call hcall hreturned
    omega
  · change other.call < (server.calls.set old.call call.loseSender).length
    rw [List.length_set]
    rcases List.mem_or_eq_of_mem_set hother with hmem | rfl
    · exact h.known other hmem
    · exact h.known old (List.mem_of_getElem? hold)

/-- A call that runs holds a receiver. -/
theorem receivers_pos_of_call (h : server.Accounted maxConnections) {call : Nat} {found : Call}
    (hfound : server.calls[call]? = some found) (hrunning : found.isRunning = true) :
    0 < server.receivers := by
  have hpos : 0 < server.running :=
    List.countP_pos_iff.mpr ⟨found, List.mem_of_getElem? hfound, hrunning⟩
  have hreceivers := h.receivers
  omega

/-- A task that is left holds a receiver. -/
theorem receivers_pos_of_task (h : server.Accounted maxConnections) {task : Nat} {found : Task}
    (hfound : server.tasks[task]? = some found) (hleft : found.isLeft = true) :
    0 < server.receivers := by
  have hpos : 0 < server.left :=
    List.countP_pos_iff.mpr ⟨found, List.mem_of_getElem? hfound, hleft⟩
  have hreceivers := h.receivers
  omega

/-- Whatever an event can do keeps the accounts. -/
theorem moves (h : server.Accounted maxConnections) (hmoves : server.Moves event after) :
    after.Accounted maxConnections := by
  cases hmoves with
  | serve => exact h.serve
  | leave hfound hstage hstop =>
      have hsenders := h.senders _ _ hfound
      refine h.put hfound ?_ ?_ nofun
      · simp [Call.leave, Call.isTaking, hstage] at hsenders ⊢
        omega
      · simp [Call.leave, Call.isRunning, hstage]
  | take hfound hstage hgoing =>
      refine h.put hfound ?_ ?_ nofun
      · simp [Call.take, Call.isTaking, hstage]
      · simp [Call.take, Call.isRunning, hstage]
  | accept hfound hstage hfree => exact h.accept hfound hstage hfree
  | refuse hfound hstage hfree =>
      refine h.put hfound ?_ ?_ nofun
      · simp [Call.refuse, Call.isTaking, hstage]
      · simp [Call.refuse, Call.isRunning, hstage]
  | resume hfound hstage =>
      refine h.put hfound ?_ ?_ nofun
      · simp [Call.resume, Call.isTaking, hstage]
      · simp [Call.resume, Call.isRunning, hstage]
  | settle hfound hstage hnone =>
      have hsenders := h.senders _ _ hfound
      refine h.put hfound ?_ ?_ fun _ => by omega
      · simp [Call.finish, Call.isTaking, hstage]
      · have hpos := h.receivers_pos_of_call hfound (by simp [Call.isRunning, hstage])
        simp [Call.finish, Call.isRunning, hstage]
        omega
  | @drop call found hfound hrunning =>
      have hsenders := h.senders _ _ hfound
      have hpos := h.receivers_pos_of_call hfound hrunning
      refine h.put hfound ?_ ?_ nofun
      · unfold Call.drop
        dsimp only
        split_ifs with htaking
        · rw [htaking, Bool.toNat_true] at hsenders ⊢
          change found.senders - 1 + 1 = found.senders + 0
          omega
        · rw [Bool.not_eq_true] at htaking
          rw [htaking]
          rfl
      · rw [hrunning]
        change server.receivers - 1 + 1 = server.receivers + 0
        omega
  | release hfound hstage =>
      refine h.replace hfound rfl ?_ (fun call => ?_) ?_
      · simp [Task.isServing, hstage]
        omega
      · simp [Task.isAttached, hstage]
      · simp [Task.isLeft, hstage, Server.replace]
  | detach hfound hstage hcall => exact h.detach hfound hstage hcall
  | vanish hfound hstage =>
      refine h.replace hfound rfl ?_ (fun call => ?_) ?_
      · simp [Task.isServing, hstage, Server.replace]
      · simp [Task.isAttached, hstage]
      · have hpos := h.receivers_pos_of_task hfound (by simp [Task.isLeft, hstage])
        simp [Task.isLeft, hstage]
        omega
  | stop => exact ⟨h.permits, h.senders, h.receivers, h.returned, h.known⟩
  | settleStop hreceivers => exact ⟨h.permits, h.senders, h.receivers, h.returned, h.known⟩

/-- Every step keeps the accounts. -/
theorem step (h : server.Accounted maxConnections) (event : Event) :
    (server.step event).Accounted maxConnections := by
  rcases server.step_cases event with hsame | hmoves
  · rwa [hsame]
  · exact h.moves hmoves

end Accounted

/-- A run from a new server keeps the accounts. -/
theorem accounted_run (maxConnections : Nat) (events : List Event) :
    ((start maxConnections).run events).Accounted maxConnections :=
  run_induction (fun _ event h => h.step event) events (.start maxConnections)

end Server

end Hypermedia.Admission
