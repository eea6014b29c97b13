import Mathlib.Data.List.Nodup
import Hypermedia.Proofs.Push.Handles

/-!
# The life of a cycle

A cycle lives until the handle of the request that started it is released, and the release of a handle
has its effect once, however often the request finishes and the handle is dropped.

* `Traffic.ends?` is the handle that a step releases, and `Traffic.ended` are the handles that some
  steps release, each as often as they do.
* `Traffic.Lifecycle` is the invariant: the live cycles are those of the origins that were not
  released.
* `Traffic.live_until_released` puts this together with what each release does, and with which
  requests get a handle.
-/

namespace Hypermedia.Push

/-- An origin is no follow-up. -/
theorem Handle.isFollowUp_eq_false_iff {handle : Handle} :
    handle.isFollowUp = false ↔ handle.role = .origin := by
  unfold isFollowUp
  cases handle.role <;> simp

/-- Whether a step is an attempt to end a request, or gives up such an attempt. -/
def Event.isEnding : Event → Bool
  | .arrive .. => false
  | .push .. => false
  | .answer .. => false
  | .finish .. => true
  | .poll _ => true
  | .cancel _ => true
  | .drop _ => true

namespace Traffic

/-! ## Ends of requests -/

/-- The handle that a step releases, whether or not it was released before: that of a request that
finishes and need not wait, of one whose wait is over, or one that is dropped. -/
def ends? (traffic : Traffic) : Event → Option Handle
  | .finish handle wait =>
    if handle ∈ traffic.handles ∧ (traffic.ledger.finish? handle wait).isSome = true then some handle
    else none
  | .poll place =>
    traffic.waiting[place]?.filter fun handle => (traffic.ledger.poll? handle).isSome
  | .drop handle => if handle ∈ traffic.handles then some handle else none
  | _ => none

/-- The handles that some steps release, in order. -/
def ended (traffic : Traffic) : List Event → List Handle
  | [] => []
  | event :: rest => (traffic.ends? event).toList ++ (traffic.step event).ended rest

theorem ended_append_singleton (traffic : Traffic) (events : List Event) (event : Event) :
    traffic.ended (events ++ [event]) =
      traffic.ended events ++ ((events.foldl step traffic).ends? event).toList := by
  induction events generalizing traffic with
  | nil => simp [ended]
  | cons first rest ih => simp [ended, ih]

variable {traffic : Traffic} {event : Event} {handle : Handle}

/-- A step that ends a request releases its handle, and gives out none. -/
theorem step_of_ends? (h : traffic.ends? event = some handle) :
    (traffic.step event).ledger = traffic.ledger.release handle ∧
      (traffic.step event).handles = traffic.handles ∧
      (handle ∈ traffic.handles ∨ handle ∈ traffic.waiting) := by
  cases event with
  | arrive | push | answer | cancel => cases h
  | finish other wait =>
      simp only [ends?] at h
      split_ifs at h with hends
      obtain rfl := Option.some.inj h
      obtain ⟨ledger, hfinish⟩ := Option.isSome_iff_exists.mp hends.2
      simp only [step, hends.1, if_true, hfinish]
      exact ⟨Ledger.finish?_eq_some hfinish, trivial, .inl trivial⟩
  | poll place =>
      obtain ⟨hplace, hpoll⟩ := Option.filter_eq_some_iff.mp h
      obtain ⟨ledger, hledger⟩ := Option.isSome_iff_exists.mp hpoll
      simp only [step, hplace, hledger]
      exact ⟨(Ledger.poll?_eq_some hledger).2, trivial, .inr (List.mem_of_getElem? hplace)⟩
  | drop other =>
      simp only [ends?] at h
      split_ifs at h with hmem
      obtain rfl := Option.some.inj h
      simp only [step, hmem, if_true]
      exact ⟨trivial, trivial, .inl trivial⟩

/-- An attempt to end a request that does not leaves the ledger as it is, and so does a wait that is
given up. -/
theorem ledger_step_of_isEnding (h : traffic.ends? event = none) (hending : event.isEnding = true) :
    (traffic.step event).ledger = traffic.ledger ∧
      (traffic.step event).handles = traffic.handles := by
  cases event with
  | arrive | push | answer => cases hending
  | cancel place => exact ⟨rfl, rfl⟩
  | finish other wait =>
      simp only [ends?, step] at h ⊢
      by_cases hmem : other ∈ traffic.handles
      · cases hfinish : traffic.ledger.finish? other wait with
        | none => simp [hmem]
        | some ledger => simp [hmem, hfinish] at h
      · simp [hmem]
  | poll place =>
      simp only [ends?, step] at h ⊢
      cases hplace : traffic.waiting[place]? with
      | none => exact ⟨rfl, rfl⟩
      | some other =>
          dsimp only
          cases hpoll : traffic.ledger.poll? other with
          | none => exact ⟨rfl, rfl⟩
          | some ledger => simp [hplace, hpoll] at h
  | drop other =>
      simp only [ends?, step] at h ⊢
      by_cases hmem : other ∈ traffic.handles <;> simp [hmem] at h ⊢

/-- A step that ends no request releases no handle and ends no cycle. -/
theorem released_step_of_not_ends (h : traffic.ends? event = none) :
    (traffic.step event).ledger.released = traffic.ledger.released ∧
      traffic.ledger.live ⊆ (traffic.step event).ledger.live := by
  cases event with
  | finish | poll | cancel | drop =>
      rw [(ledger_step_of_isEnding h rfl).1]
      exact ⟨rfl, List.Subset.refl _⟩
  | arrive headers uri canPush =>
      simp only [step]
      split
      · exact ⟨rfl, List.Subset.refl _⟩
      · next opened ledger hopen =>
        obtain ⟨-, -, -, -, -, hreleased⟩ := Ledger.handleFor_accounts hopen
        exact ⟨hreleased, Ledger.live_subset_of_handleFor hopen⟩
  | push other target headers =>
      simp only [step]
      split
      · split
        · exact ⟨rfl, List.Subset.refl _⟩
        · next ledger hreserve =>
          obtain ⟨-, -, rfl⟩ := Ledger.reserve_eq_ok hreserve
          exact ⟨rfl, List.Subset.refl _⟩
      · exact ⟨rfl, List.Subset.refl _⟩
  | answer place answer =>
      simp only [step]
      split
      · rw [Ledger.settle_released, Ledger.settle_live]
        exact ⟨rfl, List.Subset.refl _⟩
      · exact ⟨rfl, List.Subset.refl _⟩

/-- Only handles that were given out end. -/
theorem Registered.mem_of_ends? (hregistered : traffic.Registered)
    (h : traffic.ends? event = some handle) : handle ∈ traffic.handles :=
  (step_of_ends? h).2.2.elim id fun hwait => (hregistered.waiting_mem handle hwait).1

/-- The handles that were given out before a step are there after it. -/
theorem handles_subset_step (traffic : Traffic) (event : Event) :
    traffic.handles ⊆ (traffic.step event).handles := by
  have hstep := traffic.step_cases event
  generalize traffic.step event = next at hstep
  cases hstep with
  | opened headers uri canPush handle ledger hopen => exact List.subset_cons_self ..
  | idle | called | answered | released => exact List.Subset.refl _

/-- A handle that is there after a step was there before it, or it has the next number. -/
theorem mem_or_id_eq_of_mem_step (h : handle ∈ (traffic.step event).handles) :
    handle ∈ traffic.handles ∨ handle.id = traffic.ledger.opened := by
  have hstep := traffic.step_cases event
  generalize traffic.step event = next at h hstep
  cases hstep with
  | opened headers uri canPush given ledger hopen =>
      rcases List.mem_cons.mp h with rfl | hold
      · exact .inr (Ledger.handleFor_accounts hopen).1
      · exact .inl hold
  | idle | called | answered | released => exact .inl h

/-- Only handles that were given out have ended. -/
theorem ended_subset_handles (maxPushes : Option Nat) (events : List Event) :
    (start maxPushes).ended events ⊆ (run maxPushes events).handles := by
  induction events using List.reverseRecOn with
  | nil => exact List.nil_subset _
  | append_singleton events event ih =>
      intro handle hhandle
      rw [ended_append_singleton, List.mem_append, Option.mem_toList] at hhandle
      rw [run_append_singleton]
      apply handles_subset_step
      rcases hhandle with hold | hends
      · exact ih hold
      · exact (registered_run maxPushes events).mem_of_ends? hends

/-- The handles that were released are those that have ended. -/
theorem isReleased_iff_mem_ended (maxPushes : Option Nat) (events : List Event) :
    ∀ handle ∈ (run maxPushes events).handles,
      (run maxPushes events).ledger.isReleased handle = true ↔
        handle ∈ (start maxPushes).ended events := by
  induction events using List.reverseRecOn with
  | nil =>
      intro handle h
      cases h
  | append_singleton events event ih =>
      have hregistered := registered_run maxPushes events
      have hfold : events.foldl step (start maxPushes) = run maxPushes events := rfl
      intro handle hhandle
      rw [run_append_singleton] at hhandle ⊢
      rw [ended_append_singleton, hfold, List.mem_append, Option.mem_toList]
      cases hends : (run maxPushes events).ends? event with
      | some other =>
          obtain ⟨hledger, hhandles, -⟩ := step_of_ends? hends
          rw [hhandles] at hhandle
          rw [hledger, hregistered.isReleased_release (hregistered.mem_of_ends? hends) hhandle,
            ih handle hhandle, Option.some.injEq, eq_comm, or_comm]
      | none =>
          have hsame := (released_step_of_not_ends hends).1
          have hkept : ((run maxPushes events).step event).ledger.isReleased handle =
              (run maxPushes events).ledger.isReleased handle := by
            unfold Ledger.isReleased
            rw [hsame]
          rw [hkept]
          simp only [reduceCtorEq, or_false]
          rcases mem_or_id_eq_of_mem_step hhandle with hold | hnew
          · exact ih handle hold
          · -- A new handle was not released, and it has not ended.
            have hid : ∀ old ∈ (run maxPushes events).handles, old ≠ handle := by
              rintro old hold rfl
              exact absurd (hregistered.id_lt old hold) (by omega)
            rw [hregistered.not_isReleased_of_id_eq hnew]
            simp only [Bool.false_eq_true, false_iff]
            exact fun hmem => hid handle (ended_subset_handles maxPushes events hmem) rfl

/-! ## The cycles of origins -/

/-- The origins whose handles have not been released, the last one first. -/
def liveOrigins (traffic : Traffic) : List Handle :=
  traffic.handles.filter fun handle =>
    !handle.isFollowUp && !traffic.ledger.isReleased handle

theorem mem_liveOrigins : handle ∈ traffic.liveOrigins ↔
    handle ∈ traffic.handles ∧ handle.isFollowUp = false ∧
      traffic.ledger.isReleased handle = false := by
  simp [liveOrigins]

/-- A handle that is none of them need not be taken out. -/
theorem liveOrigins_filter_ne (h : handle ∉ traffic.liveOrigins) :
    traffic.liveOrigins.filter (· ≠ handle) = traffic.liveOrigins := by
  refine List.filter_eq_self.mpr fun other hother => decide_eq_true ?_
  rintro rfl
  exact h hother

/-- The origins that were not released after a request got a handle. -/
theorem liveOrigins_opened (traffic : Traffic) {ledger : Ledger}
    (hreleased : ledger.released = traffic.ledger.released)
    (hnew : traffic.ledger.isReleased handle = false) :
    liveOrigins { traffic with ledger := ledger, handles := handle :: traffic.handles } =
      if handle.isFollowUp then traffic.liveOrigins else handle :: traffic.liveOrigins := by
  unfold liveOrigins
  unfold Ledger.isReleased at hnew ⊢
  rw [hreleased, List.filter_cons, hnew]
  cases handle.isFollowUp <;> rfl

/-- The live cycles are those of the origins that were not released. -/
structure Lifecycle (traffic : Traffic) : Prop where
  /-- The handles are told apart by their numbers. -/
  registered : traffic.Registered
  /-- Cycles are numbered in the order they start. -/
  cycle_lt : ∀ handle ∈ traffic.handles, handle.isFollowUp = false →
    handle.cycle < traffic.ledger.started
  /-- No two origins have the same cycle. -/
  nodup : ((traffic.handles.filter (!·.isFollowUp)).map (·.cycle)).Nodup
  /-- What is live. -/
  live_eq : traffic.ledger.live = traffic.liveOrigins.map (·.cycle)

namespace Lifecycle

/-- A new connection. -/
theorem start (maxPushes : Option Nat) : Lifecycle (start maxPushes) := by
  refine ⟨.start maxPushes, fun handle h => ?_, List.nodup_nil, rfl⟩
  cases h

/-- Two origins of one cycle are one. -/
theorem eq_of_cycle (h : traffic.Lifecycle) {a b : Handle} (ha : a ∈ traffic.handles)
    (hb : b ∈ traffic.handles) (haorigin : a.isFollowUp = false) (hborigin : b.isFollowUp = false)
    (hcycle : a.cycle = b.cycle) : a = b :=
  List.inj_on_of_nodup_map h.nodup (List.mem_filter.mpr ⟨ha, by simp [haorigin]⟩)
    (List.mem_filter.mpr ⟨hb, by simp [hborigin]⟩) hcycle

/-- No cycle is live twice. -/
theorem nodup_live (h : traffic.Lifecycle) : traffic.ledger.live.Nodup := by
  rw [h.live_eq]
  refine h.nodup.sublist (List.Sublist.map _ ?_)
  exact List.monotone_filter_right _ fun handle hlive => (Bool.and_eq_true_iff.mp hlive).1

/-- The origins that were not released after one more release. -/
theorem liveOrigins_release (h : traffic.Lifecycle) (hhandle : handle ∈ traffic.handles)
    (waiting : List Handle) :
    liveOrigins { traffic with ledger := traffic.ledger.release handle, waiting := waiting } =
      traffic.liveOrigins.filter (· ≠ handle) := by
  unfold liveOrigins
  rw [List.filter_filter]
  apply List.filter_congr
  intro other hother
  have hreleased := h.registered.isReleased_release hhandle hother
  rcases eq_or_ne other handle with rfl | hne
  · have hgone : (traffic.ledger.release other).isReleased other = true :=
      hreleased.mpr (.inl rfl)
    simp [hgone]
  · have hkept : (traffic.ledger.release handle).isReleased other = traffic.ledger.isReleased other :=
      Bool.eq_iff_iff.mpr (hreleased.trans (or_iff_right hne))
    simp [hkept, hne]

/-- The live cycles after one more release. -/
theorem live_release (h : traffic.Lifecycle) (hhandle : handle ∈ traffic.handles) :
    (traffic.ledger.release handle).live =
      (traffic.liveOrigins.filter (· ≠ handle)).map (·.cycle) := by
  cases hfirst : traffic.ledger.isReleased handle with
  | true =>
      have hnot : handle ∉ traffic.liveOrigins := by simp [mem_liveOrigins, hfirst]
      rw [Ledger.release_of_isReleased hfirst, liveOrigins_filter_ne hnot, h.live_eq]
  | false =>
      cases hrole : handle.role with
      | followUp target =>
          have hnot : handle ∉ traffic.liveOrigins := by
            simp [mem_liveOrigins, Handle.isFollowUp, hrole]
          rw [Ledger.release_live_of_followUp hrole, liveOrigins_filter_ne hnot, h.live_eq]
      | origin =>
          rw [Ledger.release_live_of_origin hrole hfirst, h.live_eq, List.filter_map]
          congr 1
          apply List.filter_congr
          intro other hother
          obtain ⟨hmem, horigin, -⟩ := mem_liveOrigins.mp hother
          have hcycle : other.cycle = handle.cycle ↔ other = handle :=
            ⟨h.eq_of_cycle hmem hhandle horigin (Handle.isFollowUp_eq_false_iff.mpr hrole),
              congrArg Handle.cycle⟩
          simp [hcycle]

/-- The number of the cycle that starts next is not that of a live one. -/
theorem started_not_mem_live (h : traffic.Lifecycle) :
    traffic.ledger.started ∉ traffic.ledger.live := by
  rw [h.live_eq, List.mem_map]
  rintro ⟨handle, hhandle, hcycle⟩
  obtain ⟨hmem, horigin, -⟩ := mem_liveOrigins.mp hhandle
  exact absurd hcycle (Nat.ne_of_lt (h.cycle_lt handle hmem horigin))

/-- A request that gets a handle adds a live cycle if it is an origin. -/
theorem opened (h : traffic.Lifecycle) {headers : Headers} {uri : Uri} {canPush : Bool}
    {ledger : Ledger}
    (hopen : traffic.ledger.handleFor headers uri canPush = some (handle, ledger))
    (hregistered :
      Registered { traffic with ledger := ledger, handles := handle :: traffic.handles }) :
    Lifecycle { traffic with ledger := ledger, handles := handle :: traffic.handles } := by
  obtain ⟨hid, -, -, -, -, hreleased⟩ := Ledger.handleFor_accounts hopen
  have horigins :=
    liveOrigins_opened traffic hreleased (h.registered.not_isReleased_of_id_eq hid)
  rcases Ledger.handleFor_eq_some hopen with ⟨-, -, horigin⟩ | ⟨value, -, -, -, hhandle, rfl⟩
  · obtain ⟨rfl, rfl⟩ := Prod.mk.inj horigin
    refine ⟨hregistered, ?_, ?_, ?_⟩
    · intro other hother hrole
      rcases List.mem_cons.mp hother with rfl | hold
      · exact Nat.lt_succ_self _
      · exact Nat.lt_succ_of_lt (h.cycle_lt other hold hrole)
    · rw [List.filter_cons_of_pos rfl, List.map_cons, List.nodup_cons]
      refine ⟨fun hmem => ?_, h.nodup⟩
      obtain ⟨other, hother, hcycle⟩ := List.mem_map.mp hmem
      obtain ⟨hold, hrole⟩ := List.mem_filter.mp hother
      have hlt := h.cycle_lt other hold (by simpa using hrole)
      exact absurd hcycle (Nat.ne_of_lt hlt)
    · rw [horigins]
      exact congrArg (traffic.ledger.started :: ·) h.live_eq
  · have hfollowUp : handle.isFollowUp = true := by
      rw [hhandle]
      rfl
    refine ⟨hregistered, ?_, ?_, ?_⟩
    · intro other hother hrole
      rcases List.mem_cons.mp hother with rfl | hold
      · rw [hfollowUp] at hrole
        cases hrole
      · exact h.cycle_lt other hold hrole
    · rw [List.filter_cons_of_neg (by simp [hfollowUp])]
      exact h.nodup
    · rw [horigins, hfollowUp]
      exact h.live_eq

/-- Each step preserves that the live cycles are those of the origins that were not released. -/
theorem step (h : traffic.Lifecycle) (event : Event) : Lifecycle (traffic.step event) := by
  have hregistered := h.registered.step event
  have hstep := traffic.step_cases event
  generalize traffic.step event = next at hregistered hstep
  cases hstep with
  | idle => exact ⟨hregistered, h.cycle_lt, h.nodup, h.live_eq⟩
  | called handle target headers ledger hhandle hreserve =>
      obtain ⟨-, -, rfl⟩ := Ledger.reserve_eq_ok hreserve
      exact ⟨hregistered, h.cycle_lt, h.nodup, h.live_eq⟩
  | answered place answer later earlier call hplace hcalls hpending =>
      refine ⟨hregistered, ?_, h.nodup, ?_⟩
      · simp only [Ledger.settle_started]
        exact h.cycle_lt
      · simp only [Ledger.settle_live, liveOrigins, Ledger.isReleased, Ledger.settle_released]
        exact h.live_eq
  | released event handle waiting hhandle hwaiting =>
      have hmem : handle ∈ traffic.handles :=
        hhandle.elim id fun hwait => (h.registered.waiting_mem handle hwait).1
      refine ⟨hregistered, ?_, h.nodup, ?_⟩
      · simp only [Ledger.release_started]
        exact h.cycle_lt
      · rw [h.liveOrigins_release hmem]
        exact h.live_release hmem
  | opened headers uri canPush handle ledger hopen => exact h.opened hopen hregistered

end Lifecycle

/-! ## Runs -/

/-- In every state of a connection, the live cycles are those of the origins that were not
released. -/
theorem lifecycle_run (maxPushes : Option Nat) (events : List Event) :
    Lifecycle (run maxPushes events) :=
  run_induction (.start maxPushes) (fun _ event h => h.step event) events

/-- The origins that were not released are those that have not ended. -/
theorem liveOrigins_run (maxPushes : Option Nat) (events : List Event) :
    (run maxPushes events).liveOrigins = (run maxPushes events).handles.filter fun handle =>
      handle.role = .origin ∧ handle ∉ (start maxPushes).ended events := by
  apply List.filter_congr
  intro handle hhandle
  rw [Bool.eq_iff_iff]
  simp [← isReleased_iff_mem_ended maxPushes events handle hhandle, ← Handle.isFollowUp_eq_false_iff]

/-- What a step does to the ledger when it ends a request: the first time it concludes the part of the
request in its cycle, and then nothing. -/
theorem ledger_step_of_ends? {maxPushes : Option Nat} {events : List Event}
    (h : (run maxPushes events).ends? event = some handle) :
    ((run maxPushes events).step event).ledger =
      if handle ∈ (start maxPushes).ended events then (run maxPushes events).ledger
      else
        { (run maxPushes events).ledger.conclude handle with
          released := handle.id :: (run maxPushes events).ledger.released } := by
  have hmem := (registered_run maxPushes events).mem_of_ends? h
  have hreleased := isReleased_iff_mem_ended maxPushes events handle hmem
  rw [(step_of_ends? h).1]
  split_ifs with hended
  · exact Ledger.release_of_isReleased (hreleased.mpr hended)
  · apply Ledger.release_of_not_isReleased
    rw [Bool.eq_false_iff, ne_eq, hreleased]
    exact hended

/-- An origin that is to wait and has not ended does not end while pushes of its cycle are
outstanding. -/
theorem ends?_finish_of_outstanding {maxPushes : Option Nat} {events : List Event}
    (hhandle : handle ∈ (run maxPushes events).handles) (hrole : handle.role = .origin)
    (hended : handle ∉ (start maxPushes).ended events)
    (houtstanding : ((run maxPushes events).ledger.cycles handle.cycle).outstanding ≠ 0) :
    (run maxPushes events).ends? (.finish handle true) = none := by
  have hfirst : (run maxPushes events).ledger.isReleased handle = false := by
    rw [Bool.eq_false_iff, ne_eq, isReleased_iff_mem_ended maxPushes events handle hhandle]
    exact hended
  have hfinish := Ledger.finish?_of_origin (Handle.isFollowUp_eq_false_iff.mpr hrole) hfirst
  refine if_neg fun h => houtstanding ?_
  rw [hfinish] at h
  exact Ledger.poll?_isSome.mp h.2

/-- **A cycle lives until its origin is released.** After any steps on a connection, the live cycles
are those of the origins that have not ended, one for each. A step that ends a request does so with
effect exactly if the handle has not ended before: then the cycle of an origin is not live any more,
and the push of a follow-up is complete. Any other step releases nothing, and an attempt to end a
request that does not, such as a wait that begins, goes on or is given up, changes nothing on the
ledger. A request with a correlation identifier gets a handle exactly if the identifier is that of a
live cycle, and joins this cycle; a request without one gets a handle exactly if pushes are possible,
and starts a new cycle. -/
theorem live_until_released (maxPushes : Option Nat) (events : List Event) :
    ((∀ id, id ∈ (run maxPushes events).ledger.live ↔
        ∃ handle ∈ (run maxPushes events).handles, handle.role = .origin ∧ handle.cycle = id ∧
          handle ∉ (start maxPushes).ended events) ∧
      (run maxPushes events).ledger.live.Nodup ∧
      (run maxPushes events).ledger.live.length =
        (run maxPushes events).handles.countP fun handle =>
          handle.role = .origin ∧ handle ∉ (start maxPushes).ended events) ∧
    ((∀ event handle, (run maxPushes events).ends? event = some handle →
        ((run maxPushes events).step event).ledger =
          if handle ∈ (start maxPushes).ended events then (run maxPushes events).ledger
          else
            { (run maxPushes events).ledger.conclude handle with
              released := handle.id :: (run maxPushes events).ledger.released }) ∧
      (∀ event, (run maxPushes events).ends? event = none →
        ((run maxPushes events).step event).ledger.released =
            (run maxPushes events).ledger.released ∧
          (run maxPushes events).ledger.live ⊆ ((run maxPushes events).step event).ledger.live ∧
          (event.isEnding = true →
            ((run maxPushes events).step event).ledger = (run maxPushes events).ledger)) ∧
      ∀ handle ∈ (run maxPushes events).handles, handle.role = .origin →
        handle ∉ (start maxPushes).ended events →
        ((run maxPushes events).ledger.cycles handle.cycle).outstanding ≠ 0 →
        (run maxPushes events).ends? (.finish handle true) = none) ∧
    ∀ headers uri canPush,
      (headers.get? correlationField = none →
        (((run maxPushes events).ledger.handleFor headers uri canPush).isSome = true ↔
          canPush = true) ∧
        ∀ handle ledger,
          (run maxPushes events).ledger.handleFor headers uri canPush = some (handle, ledger) →
          handle.role = .origin ∧ handle.cycle ∉ (run maxPushes events).ledger.live ∧
            ledger.live = handle.cycle :: (run maxPushes events).ledger.live) ∧
      ∀ value, headers.get? correlationField = some value →
        (((run maxPushes events).ledger.handleFor headers uri canPush).isSome = true ↔
          ∃ id ∈ (run maxPushes events).ledger.live, readable? value = some (correlation id)) ∧
        ∀ handle ledger,
          (run maxPushes events).ledger.handleFor headers uri canPush = some (handle, ledger) →
          handle.role = .followUp (Ledger.targetOf uri) ∧
            handle.cycle ∈ (run maxPushes events).ledger.live ∧
            readable? value = some (correlation handle.cycle) ∧
            ledger.live = (run maxPushes events).ledger.live := by
  have h := lifecycle_run maxPushes events
  have hlive : (run maxPushes events).ledger.live =
      ((run maxPushes events).handles.filter fun handle =>
        handle.role = .origin ∧ handle ∉ (start maxPushes).ended events).map (·.cycle) := by
    rw [h.live_eq, liveOrigins_run]
  refine ⟨⟨fun id => ?_, h.nodup_live, ?_⟩, ⟨fun event handle => ledger_step_of_ends?, ?_, ?_⟩, ?_⟩
  · rw [hlive, List.mem_map]
    simp only [List.mem_filter, decide_eq_true_eq]
    constructor
    · rintro ⟨handle, ⟨hhandle, hrole, hended⟩, hcycle⟩
      exact ⟨handle, hhandle, hrole, hcycle, hended⟩
    · rintro ⟨handle, hhandle, hrole, hcycle, hended⟩
      exact ⟨handle, ⟨hhandle, hrole, hended⟩, hcycle⟩
  · rw [hlive, List.length_map, List.countP_eq_length_filter]
  · intro event hends
    obtain ⟨hreleased, hkept⟩ := released_step_of_not_ends hends
    exact ⟨hreleased, hkept, fun hending => (ledger_step_of_isEnding hends hending).1⟩
  · intro handle hhandle hrole hended houtstanding
    exact ends?_finish_of_outstanding hhandle hrole hended houtstanding
  · intro headers uri canPush
    refine ⟨fun hnone => ⟨?_, fun handle ledger hopen => ?_⟩,
      fun value hvalue => ⟨Ledger.isSome_handleFor_iff hvalue uri canPush,
        fun handle ledger hopen => ?_⟩⟩
    · rw [Ledger.handleFor_of_get?_eq_none hnone]
      cases canPush <;> simp
    · rcases Ledger.handleFor_eq_some hopen with ⟨-, -, horigin⟩ | ⟨value, hvalue, -⟩
      · obtain ⟨rfl, rfl⟩ := Prod.mk.inj horigin
        exact ⟨rfl, h.started_not_mem_live, rfl⟩
      · rw [hnone] at hvalue
        cases hvalue
    · rcases Ledger.handleFor_eq_some hopen with
        ⟨hnone, -, -⟩ | ⟨found, hfound, hread, hmem, hhandle, rfl⟩
      · rw [hnone] at hvalue
        cases hvalue
      · obtain rfl := Option.some.inj (hfound.symm.trans hvalue)
        exact ⟨congrArg Handle.role hhandle, hmem, hread, rfl⟩

end Traffic

end Hypermedia.Push
