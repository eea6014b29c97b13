import Hypermedia.Connection
import Hypermedia.Proofs.Push.Ledger

/-!
# Hosts

A host is what stands behind a transport: it answers pushes, and before it answers one it may work
on the connection, for instance on the follow-up of that push.

* `Ledger.Reentered` is what the work of a host can do to the ledger.
* `Host` is a host with any behaviour, `Host.transport` the transport that it makes.
* `Host.push_spec` is what a push does: with a host, no target is lost from the ledger, and a push
  that needs no replacement has its target there.
-/

namespace Hypermedia.Push

/-! ## The work of a host -/

/-- What can happen to a ledger within one call: requests get handles, handles are released, and
targets are pushed, where again anything of this kind happens before the answer. -/
inductive Ledger.Reentered : Ledger → Ledger → Prop where
  /-- Nothing happens. -/
  | refl (ledger : Ledger) : Reentered ledger ledger
  /-- First a request gets a handle. -/
  | opened {ledger next last : Ledger} {headers : Headers} {uri : Uri} {canPush : Bool}
      {handle : Handle} (hopen : ledger.handleFor headers uri canPush = some (handle, next))
      (hrest : Reentered next last) : Reentered ledger last
  /-- First a handle is released. -/
  | released {ledger last : Ledger} (handle : Handle)
      (hrest : Reentered (ledger.release handle) last) : Reentered ledger last
  /-- First a target is pushed. -/
  | pushed {ledger entered called last : Ledger} {id : CycleId} {target : String}
      (answer : Answer) (hreserve : ledger.reserve id target = .ok entered)
      (hcall : Reentered entered called)
      (hrest : Reentered (called.settle id target answer) last) : Reentered ledger last

/-- The work of a host takes no target off the ledger. -/
theorem Ledger.Reentered.pushed_subset {ledger last : Ledger} (h : ledger.Reentered last) :
    ledger.pushed ⊆ last.pushed := by
  induction h with
  | refl ledger => exact List.Subset.refl _
  | opened hopen hrest ih =>
      obtain ⟨-, -, -, hpushed, -, -⟩ := Ledger.handleFor_accounts hopen
      exact hpushed ▸ ih
  | released handle hrest ih =>
      rw [Ledger.release_pushed] at ih
      exact ih
  | pushed answer hreserve hcall hrest ihcall ihrest =>
      obtain ⟨hnew, -, hentered⟩ := Ledger.reserve_eq_ok hreserve
      intro other hother
      refine ihrest (Ledger.mem_settle_pushed.mpr ⟨ihcall ?_, ?_⟩)
      · rw [hentered]
        exact List.mem_cons_of_mem _ hother
      · -- The target of this push was not on the ledger before.
        rintro rfl
        exact absurd hother hnew

/-! ## Hosts -/

/-- What a host was asked for. -/
structure Record where
  /-- The pushes, in order. -/
  pushes : List PushedRequest
  /-- The links that were to be sent ahead, for each time. -/
  hints : List (List Bytes)

/-- A host. Its behaviour may depend on all the pushes it was asked for and on the ledger. -/
structure Host where
  /-- The answer to the last of some pushes, and the ledger when that is given. -/
  respond : List PushedRequest → Ledger → Answer × Ledger
  /-- What the host does before it answers. -/
  reentered : ∀ pushes (ledger : Ledger), ledger.Reentered (respond pushes ledger).2

namespace Host

/-- The transport that pushes through a host. -/
def transport (host : Host) : Transport Record := fun target headers world =>
  let pushes := world.transport.pushes ++ [⟨target, headers⟩]
  let (answer, ledger) := host.respond pushes world.ledger
  (answer, ⟨ledger, { world.transport with pushes := pushes }⟩)

/-- The pushes of a request, if it has a handle. -/
def pusher (host : Host) (handle : Option Handle) : Option (Pusher (World Record)) :=
  handle.map fun handle => push host.transport handle.cycle

/-- Sends links ahead. -/
def sendHint (links : List Bytes) : StateM (World Record) Unit :=
  modify fun world =>
    { world with transport :=
        { world.transport with hints := world.transport.hints ++ [links] } }

/-- What a push does. The host is asked for nothing but that push, with the correlation identifier of
its cycle; the ledger loses no target, and where no link is needed in place of the push, the target is
on the ledger. -/
theorem push_spec (host : Host) (id : CycleId) (target : String) (headers : Headers)
    (world : World Record) {answer : Answer} {after : World Record}
    (h : (push host.transport id target headers).run world = (answer, after)) :
    world.ledger.pushed ⊆ after.ledger.pushed ∧
    (answer.isKept = true → target ∈ after.ledger.pushed) ∧
    ∃ calls, after.transport.pushes = world.transport.pushes ++ calls ∧
      ∀ call ∈ calls, call = ⟨target, withCorrelation id headers⟩ := by
  rw [push_run] at h
  cases hreserve : world.ledger.reserve id target with
  | error error =>
      rw [hreserve] at h
      obtain ⟨rfl, rfl⟩ := Prod.mk.inj h
      refine ⟨List.Subset.refl _, fun hkept => ?_, [], (List.append_nil _).symm, by simp⟩
      rcases Answer.isKept_iff.mp hkept with hok | hknown
      · cases hok
      · rw [Except.error.injEq] at hknown
        exact Ledger.reserve_eq_alreadyPushed.mp (hknown ▸ hreserve)
  | ok entered =>
      rw [hreserve] at h
      obtain ⟨hanswer, hafter⟩ := Prod.mk.inj h
      obtain ⟨hnew, -, hentered⟩ := Ledger.reserve_eq_ok hreserve
      have hcall := (host.reentered
        (world.transport.pushes ++ [⟨target, withCorrelation id headers⟩]) entered).pushed_subset
      have hpushed : target :: world.ledger.pushed ⊆ entered.pushed := by
        rw [hentered]
        exact List.Subset.refl _
      subst hafter
      refine ⟨fun other hother => ?_, fun hkept => ?_, _, rfl, by simp⟩
      · refine Ledger.mem_settle_pushed.mpr
          ⟨hcall (hpushed (List.mem_cons_of_mem _ hother)), ?_⟩
        rintro rfl
        exact absurd hother hnew
      · exact Ledger.mem_settle_pushed.mpr
          ⟨hcall (hpushed List.mem_cons_self), fun _ => hanswer ▸ hkept⟩

end Host

end Hypermedia.Push
