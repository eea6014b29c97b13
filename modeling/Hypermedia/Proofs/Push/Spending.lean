import Hypermedia.Proofs.Push.Budget
import Hypermedia.Proofs.Push.Host

/-!
# Spending a budget

What a cycle has pushed where every push is accepted.

* `Host.Accepting` are the hosts that accept every push and push nothing themselves, whatever else they
  do to the ledger by `Ledger.Visited`.
* `Ledger.budgetLeft?` is how many pushes a cycle may still make, and `affordable` are the first of some
  targets, as many as a budget covers.
* `Spent` says that a cycle has pushed some targets since a state before. `Spent.push_of_known`,
  `Spent.push_of_spent` and `Spent.push_of_covered` are the outcomes of one more push.
-/

namespace Hypermedia.Push

/-! ## Hosts that accept every push -/

/-- What can happen to a ledger without a push: requests get handles, and handles are released. -/
inductive Ledger.Visited : Ledger → Ledger → Prop where
  /-- Nothing happens. -/
  | refl (ledger : Ledger) : Visited ledger ledger
  /-- First a request gets a handle. -/
  | opened {ledger next last : Ledger} {headers : Headers} {uri : Uri} {canPush : Bool}
      {handle : Handle} (hopen : ledger.handleFor headers uri canPush = some (handle, next))
      (hrest : Visited next last) : Visited ledger last
  /-- First a handle is released. -/
  | released {ledger last : Ledger} (handle : Handle)
      (hrest : Visited (ledger.release handle) last) : Visited ledger last

/-- Without a push the same targets count as pushed, and no cycle counts more or fewer pushes. -/
theorem Ledger.Visited.accounts {ledger last : Ledger} (h : ledger.Visited last) :
    last.maxPushes = ledger.maxPushes ∧ last.pushed = ledger.pushed ∧
      ∀ id, (last.cycles id).pushes = (ledger.cycles id).pushes := by
  induction h with
  | refl ledger => exact ⟨rfl, rfl, fun _ => rfl⟩
  | opened hopen hrest ih =>
      obtain ⟨-, -, hlimit, hpushed, hcycles, -⟩ := handleFor_accounts hopen
      rw [hlimit, hpushed, hcycles] at ih
      exact ih
  | released handle hrest ih =>
      simp only [release_maxPushes, release_pushed, release_pushes] at ih
      exact ih

/-- A host that accepts every push. Before it does, requests may come and go, but nothing is pushed. -/
structure Host.Accepting (host : Host) : Prop where
  /-- Every push is made. -/
  respond_fst : ∀ pushes ledger, (host.respond pushes ledger).1 = .ok ()
  /-- Nothing else is pushed. -/
  visited : ∀ pushes (ledger : Ledger), ledger.Visited (host.respond pushes ledger).2

/-! ## Budgets -/

/-- How many pushes a cycle may still make; any number if there is no limit. -/
def Ledger.budgetLeft? (ledger : Ledger) (id : CycleId) : Option Nat :=
  ledger.maxPushes.map (· - (ledger.cycles id).pushes)

/-- The first of some targets, as many as a budget covers. -/
def affordable (budget : Option Nat) (targets : List String) : List String :=
  match budget with
  | none => targets
  | some left => targets.take left

@[simp] theorem affordable_nil (budget : Option Nat) : affordable budget [] = [] := by
  cases budget with
  | none => rfl
  | some left => exact List.take_nil

/-- Whether a budget covers one more push after some number of them. -/
def Covers (budget : Option Nat) (count : Nat) : Prop :=
  ∀ left, budget = some left → count < left

section

variable {budget : Option Nat} {targets : List String}

/-- Where the budget covers one more push, it covers all targets so far. -/
theorem Covers.affordable_eq (h : Covers budget targets.length) :
    affordable budget targets = targets := by
  cases budget with
  | none => rfl
  | some left => exact List.take_of_length_le (Nat.le_of_lt (h left rfl))

/-- Where the budget covers one more push, one more target is affordable. -/
theorem Covers.affordable_concat (h : Covers budget targets.length) (target : String) :
    affordable budget (targets ++ [target]) = affordable budget targets ++ [target] := by
  rw [h.affordable_eq]
  cases budget with
  | none => rfl
  | some left =>
      refine List.take_of_length_le ?_
      rw [List.length_append, List.length_singleton]
      exact h left rfl

/-- Where the budget covers no more pushes, no more targets are affordable. -/
theorem affordable_concat_of_not_covers (h : ¬Covers budget targets.length) (target : String) :
    affordable budget (targets ++ [target]) = affordable budget targets := by
  cases budget with
  | none =>
      refine absurd ?_ h
      intro left hleft
      cases hleft
  | some left =>
      refine List.take_append_of_le_length (Nat.le_of_not_lt fun hlt => h fun other hother => ?_)
      exact Option.some.inj hother ▸ hlt

/-- Whether a budget covers one more push does not depend on targets that it does not cover. -/
theorem covers_length_affordable :
    Covers budget (affordable budget targets).length ↔ Covers budget targets.length := by
  unfold Covers affordable
  cases budget with
  | none => simp
  | some left =>
      simp only [Option.some.injEq, forall_eq', List.length_take]
      omega

end

/-! ## Pushes that are made -/

/-- A cycle has pushed some targets since a state before, and nothing else was pushed. -/
structure Spent (id : CycleId) (before : World Record) (targets : List String)
    (after : World Record) : Prop where
  /-- The limit is the same. -/
  maxPushes : after.ledger.maxPushes = before.ledger.maxPushes
  /-- These targets count as pushed, and those from before. -/
  mem_pushed : ∀ target, target ∈ after.ledger.pushed ↔
    target ∈ before.ledger.pushed ∨ target ∈ targets
  /-- The cycle has counted these pushes. -/
  pushes : (after.ledger.cycles id).pushes = (before.ledger.cycles id).pushes + targets.length
  /-- The host was asked for these pushes. -/
  calls : ∃ calls, after.transport.pushes = before.transport.pushes ++ calls ∧
    calls.map (·.target) = targets

namespace Spent

variable {id : CycleId} {before world : World Record} {targets : List String} {target : String}

/-- Nothing has been pushed. -/
theorem nil (id : CycleId) (before : World Record) : Spent id before [] before where
  maxPushes := rfl
  mem_pushed := by simp
  pushes := rfl
  calls := ⟨[], (List.append_nil _).symm, rfl⟩

/-- Only the ledger and the pushes count. -/
theorem congr (h : Spent id before targets world) {after : World Record}
    (hledger : after.ledger = world.ledger)
    (hpushes : after.transport.pushes = world.transport.pushes) : Spent id before targets after where
  maxPushes := by rw [hledger, h.maxPushes]
  mem_pushed := by rw [hledger]; exact h.mem_pushed
  pushes := by rw [hledger, h.pushes]
  calls := by rw [hpushes]; exact h.calls

/-- Whether the cycle may make one more push. -/
theorem covers_iff (h : Spent id before targets world) :
    Covers (before.ledger.budgetLeft? id) targets.length ↔
      ∀ limit, world.ledger.maxPushes = some limit → (world.ledger.cycles id).pushes < limit := by
  unfold Covers Ledger.budgetLeft?
  rw [h.maxPushes, h.pushes]
  cases before.ledger.maxPushes with
  | none => simp
  | some limit =>
      simp only [Option.map_some, Option.some.injEq, forall_eq']
      omega

/-- A target that counts as pushed is not pushed again. -/
theorem push_of_known (h : Spent id before targets world) (host : Host)
    (hknown : target ∈ before.ledger.pushed ∨ target ∈ targets) (headers : Headers) :
    (push host.transport id target headers).run world = (.error .alreadyPushed, world) :=
  push_of_refused (Ledger.reserve_eq_alreadyPushed.mpr ((h.mem_pushed target).mpr hknown))

/-- A target is not pushed when the budget is spent. -/
theorem push_of_spent (h : Spent id before targets world) (host : Host)
    (hnew : ¬(target ∈ before.ledger.pushed ∨ target ∈ targets))
    (hfull : ¬Covers (before.ledger.budgetLeft? id) targets.length) (headers : Headers) :
    ∃ limit, (push host.transport id target headers).run world =
      (.error (.budgetExhausted limit), world) := by
  rw [h.covers_iff] at hfull
  simp only [not_forall, Nat.not_lt] at hfull
  obtain ⟨limit, hlimit, hle⟩ := hfull
  rw [← h.mem_pushed] at hnew
  exact ⟨limit, push_of_refused (Ledger.reserve_eq_budgetExhausted.mpr ⟨hlimit, hnew, hle⟩)⟩

/-- Any other target is pushed. -/
theorem push_of_covered (h : Spent id before targets world) {host : Host} (hhost : host.Accepting)
    (hnew : ¬(target ∈ before.ledger.pushed ∨ target ∈ targets))
    (hcovers : Covers (before.ledger.budgetLeft? id) targets.length) (headers : Headers) :
    ∃ after, (push host.transport id target headers).run world = (.ok (), after) ∧
      Spent id before (targets ++ [target]) after := by
  have hentered : ∃ entered, world.ledger.reserve id target = .ok entered :=
    Ledger.exists_reserve_eq_ok_iff.mpr ⟨(h.mem_pushed target).not.mpr hnew, h.covers_iff.mp hcovers⟩
  obtain ⟨entered, hreserve⟩ := hentered
  let pushes := world.transport.pushes ++ [⟨target, withCorrelation id headers⟩]
  have hrun : (push host.transport id target headers).run world = (.ok (),
      ⟨(host.respond pushes entered).2, { world.transport with pushes := pushes }⟩) := by
    rw [push_run, hreserve]
    change ((host.respond pushes entered).1,
      World.mk ((host.respond pushes entered).2.settle id target (host.respond pushes entered).1)
        { world.transport with pushes := pushes }) = _
    rw [hhost.respond_fst]
    rfl
  obtain ⟨-, -, rfl⟩ := Ledger.reserve_eq_ok hreserve
  obtain ⟨hlimit, hpushed, hcount⟩ := (hhost.visited pushes _).accounts
  obtain ⟨calls, hcalls, htargets⟩ := h.calls
  refine ⟨_, hrun, hlimit.trans h.maxPushes, fun other => ?_, ?_,
    calls ++ [⟨target, withCorrelation id headers⟩], ?_, by simp [htargets]⟩
  · simp only [hpushed, Ledger.updateCycle_pushed, List.mem_cons, h.mem_pushed, List.mem_append,
      List.not_mem_nil, or_false]
    tauto
  · simp [hcount, Ledger.updateCycle_cycles, h.pushes, Nat.add_assoc]
  · simp [pushes, hcalls]

end Spent

end Hypermedia.Push
