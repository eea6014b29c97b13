import Hypermedia.Proofs.Push.Traffic

/-!
# The handles of a connection

Every request that may push has a handle of its own, and a handle is released only after it was
given out.

* `Traffic.Registered` is the invariant: numbers of handles are not used twice, what was released
  was given out, and only the origins of cycles wait.
* `Traffic.Registered.isReleased_release` says which handles are released after one more release.
-/

namespace Hypermedia.Push.Traffic

/-- The handles of a connection are told apart by their numbers. -/
structure Registered (traffic : Traffic) : Prop where
  /-- Numbers are given out in order. -/
  id_lt : ∀ handle ∈ traffic.handles, handle.id < traffic.ledger.opened
  /-- No two handles have the same number. -/
  eq_of_id : ∀ a ∈ traffic.handles, ∀ b ∈ traffic.handles, a.id = b.id → a = b
  /-- What was released was given out. -/
  released_lt : ∀ number ∈ traffic.ledger.released, number < traffic.ledger.opened
  /-- What waits was given out to the origin of a cycle. -/
  waiting_mem : ∀ handle ∈ traffic.waiting,
    handle ∈ traffic.handles ∧ handle.isFollowUp = false

namespace Registered

variable {traffic : Traffic}

/-- A new connection. -/
theorem start (maxPushes : Option Nat) : Registered (start maxPushes) := by
  constructor <;> intro handle h <;> cases h

/-- A handle that is given out next has not been released. -/
theorem not_isReleased_of_id_eq (h : traffic.Registered) {handle : Handle}
    (hid : handle.id = traffic.ledger.opened) : traffic.ledger.isReleased handle = false := by
  rw [Bool.eq_false_iff]
  intro hreleased
  have hlt := h.released_lt handle.id (by simpa [Ledger.isReleased] using hreleased)
  omega

/-- The handles that are released after one more release. -/
theorem isReleased_release (h : traffic.Registered) {handle other : Handle}
    (hhandle : handle ∈ traffic.handles) (hother : other ∈ traffic.handles) :
    (traffic.ledger.release handle).isReleased other = true ↔
      other = handle ∨ traffic.ledger.isReleased other = true := by
  have hmem : ∀ ledger : Ledger, ledger.isReleased other = true ↔ other.id ∈ ledger.released :=
    fun ledger => List.contains_iff_mem
  rw [hmem, hmem, Ledger.mem_release_released]
  constructor
  · rintro (hid | hold)
    · exact .inl (h.eq_of_id other hother handle hhandle hid)
    · exact .inr hold
  · rintro (rfl | hold)
    · exact .inl rfl
    · exact .inr hold

/-- Each step preserves the registration of handles. -/
theorem step (h : traffic.Registered) (event : Event) : Registered (traffic.step event) := by
  have hstep := traffic.step_cases event
  generalize traffic.step event = next at hstep
  cases hstep with
  | idle event waiting hwaiting =>
      refine ⟨h.id_lt, h.eq_of_id, h.released_lt, fun handle hhandle => ?_⟩
      rcases hwaiting handle hhandle with hold | hnew
      · exact h.waiting_mem handle hold
      · exact hnew
  | opened headers uri canPush handle ledger hopen =>
      obtain ⟨hid, hopened, -, -, -, hreleased⟩ := Ledger.handleFor_accounts hopen
      refine ⟨?_, ?_, ?_, fun other hother => ?_⟩
      · intro other hother
        simp only [hopened]
        rcases List.mem_cons.mp hother with rfl | hold
        · omega
        · exact Nat.lt_succ_of_lt (h.id_lt other hold)
      · intro a ha b hb hab
        rcases List.mem_cons.mp ha with rfl | haold <;> rcases List.mem_cons.mp hb with rfl | hbold
        · rfl
        · have := h.id_lt b hbold
          omega
        · have := h.id_lt a haold
          omega
        · exact h.eq_of_id a haold b hbold hab
      · intro number hnumber
        simp only [hreleased, hopened] at hnumber ⊢
        exact Nat.lt_succ_of_lt (h.released_lt number hnumber)
      · obtain ⟨hmem, horigin⟩ := h.waiting_mem other hother
        exact ⟨List.mem_cons_of_mem _ hmem, horigin⟩
  | called handle target headers ledger hhandle hreserve =>
      obtain ⟨-, -, rfl⟩ := Ledger.reserve_eq_ok hreserve
      exact ⟨h.id_lt, h.eq_of_id, h.released_lt, h.waiting_mem⟩
  | answered place answer later earlier call hplace hcalls hpending =>
      refine ⟨?_, h.eq_of_id, ?_, h.waiting_mem⟩
      · simp only [Ledger.settle_opened]
        exact h.id_lt
      · simp only [Ledger.settle_opened, Ledger.settle_released]
        exact h.released_lt
  | released event handle waiting hhandle hwaiting =>
      have hmem : handle ∈ traffic.handles :=
        hhandle.elim id fun hwait => (h.waiting_mem handle hwait).1
      refine ⟨?_, h.eq_of_id, ?_, fun other hother => h.waiting_mem other (hwaiting other hother)⟩
      · simp only [Ledger.release_opened]
        exact h.id_lt
      · intro number hnumber
        simp only [Ledger.release_opened]
        rcases Ledger.mem_release_released.mp hnumber with rfl | hold
        · exact h.id_lt handle hmem
        · exact h.released_lt number hold

end Registered

/-- In every state of a connection the handles are told apart by their numbers. -/
theorem registered_run (maxPushes : Option Nat) (events : List Event) :
    Registered (run maxPushes events) :=
  run_induction (.start maxPushes) (fun _ event h => h.step event) events

end Hypermedia.Push.Traffic
