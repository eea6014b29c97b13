import Hypermedia.Proofs.Push.Handles
import Hypermedia.Proofs.Push.InFlight

/-!
# An origin waits for the pushes of its cycle

With a host that delivers follow-ups for the pushes of a connection and for nothing else, the
outstanding pushes of a cycle are those that the host still has to see through.

* `Traffic.Admits` says what such a host does, `Traffic.AdmitsAll` says it of a run. It may deliver a
  push while the transport is called, late, several times, or never.
* `Traffic.openPushes` counts the pushes of a cycle that did not fail and of which no follow-up has
  been released.
* `Traffic.Attended` is the invariant: what is in flight in a cycle are the targets of its open
  pushes.
* `Traffic.outstanding_eq_openPushes` is the result, with what it means for a request that waits.
-/

namespace Hypermedia.Push

/-- Whether a handle is that of a follow-up of a call. -/
def Handle.follows (handle : Handle) (call : Call) : Bool :=
  handle.cycle = call.cycle && handle.role = .followUp call.target

theorem Handle.follows_iff {handle : Handle} {call : Call} : handle.follows call = true ↔
    handle.cycle = call.cycle ∧ handle.role = .followUp call.target := by
  simp [follows]

namespace Traffic

/-! ## Well-behaved hosts -/

/-- What a well-behaved host may do next. Targets of pushes are read back as they were written. A
request with a correlation identifier is a follow-up of a push that has not failed: it has the
identifier of that push, and its target as the URI. A push that was delivered does not fail. -/
def Admits (traffic : Traffic) : Event → Prop
  | .arrive headers uri _ =>
    headers.get? correlationField = none ∨
      ∃ call ∈ traffic.calls, call.isLive = true ∧
        headers.get? correlationField = call.headers.get? correlationField ∧
        Uri.parse? call.target = some uri
  | .push _ target _ => (Uri.parse? target).map Ledger.targetOf = some target
  | .answer place (.error _) =>
    ∀ call ∈ traffic.calls[place]?, ∀ handle ∈ traffic.handles, handle.follows call = false
  | _ => True

/-- A well-behaved host may do all that in order. -/
def AdmitsAll (traffic : Traffic) : List Event → Prop
  | [] => True
  | event :: rest => traffic.Admits event ∧ (traffic.step event).AdmitsAll rest

instance (traffic : Traffic) : DecidablePred traffic.Admits
  | .arrive .. => inferInstanceAs (Decidable (_ ∨ _))
  | .push .. => inferInstanceAs (Decidable (_ = _))
  | .answer place (.error _) =>
    inferInstanceAs (Decidable (∀ call ∈ traffic.calls[place]?, ∀ handle ∈ traffic.handles, _ = _))
  | .answer _ (.ok _) | .finish .. | .poll _ | .cancel _ | .drop _ =>
    inferInstanceAs (Decidable True)

instance decidableAdmitsAll : (traffic : Traffic) → DecidablePred traffic.AdmitsAll
  | _, [] => inferInstanceAs (Decidable True)
  | traffic, event :: rest =>
    have := decidableAdmitsAll (traffic.step event) rest
    inferInstanceAs (Decidable (traffic.Admits event ∧ (traffic.step event).AdmitsAll rest))

theorem admitsAll_append_singleton {traffic : Traffic} {events : List Event} {event : Event} :
    traffic.AdmitsAll (events ++ [event]) ↔
      traffic.AdmitsAll events ∧ (events.foldl step traffic).Admits event := by
  induction events generalizing traffic with
  | nil => simp [AdmitsAll]
  | cons first rest ih =>
      simp only [List.cons_append, AdmitsAll, List.foldl_cons, ih]
      exact and_assoc.symm

/-! ## Open pushes -/

/-- Whether a push did not fail and no follow-up of it has been released. -/
def isOpen (traffic : Traffic) (call : Call) : Bool :=
  call.isLive &&
    !traffic.handles.any fun handle => handle.follows call && traffic.ledger.isReleased handle

/-- The number of open pushes that were made through the handles of a cycle. -/
def openPushes (traffic : Traffic) (id : CycleId) : Nat :=
  traffic.calls.countP fun call => call.cycle = id && traffic.isOpen call

theorem isOpen_iff {traffic : Traffic} {call : Call} : traffic.isOpen call = true ↔
    call.isLive = true ∧ ∀ handle ∈ traffic.handles, handle.follows call = true →
      traffic.ledger.isReleased handle = false := by
  simp [isOpen]

/-- Whether a push is open depends on the handles and on which of them were released. -/
theorem isOpen_congr {traffic next : Traffic} (hhandles : next.handles = traffic.handles)
    (hreleased : next.ledger.released = traffic.ledger.released) (call : Call) :
    next.isOpen call = traffic.isOpen call := by
  unfold isOpen Ledger.isReleased
  rw [hhandles, hreleased]

/-! ## The invariant -/

/-- What is in flight in a cycle are the targets of its open pushes. -/
def OpenInFlight (traffic : Traffic) : Prop :=
  ∀ id target, target ∈ traffic.ledger.inFlight id ↔
    ∃ call ∈ traffic.calls, call.cycle = id ∧ call.target = target ∧ traffic.isOpen call = true

/-- What is in flight are the targets of open pushes, and follow-ups come for pushes only. -/
structure Attended (traffic : Traffic) : Prop where
  /-- The accounts agree with the calls. -/
  accounted : Accounted traffic.ledger traffic.calls
  /-- The handles are told apart by their numbers. -/
  registered : traffic.Registered
  /-- The header fields of a push carry the identifier of its cycle. -/
  correlated : ∀ call ∈ traffic.calls,
    call.headers.get? correlationField = some (Bytes.ofString (correlation call.cycle))
  /-- Targets are read back as they were written. -/
  targetOf_parse : ∀ call ∈ traffic.calls,
    (Uri.parse? call.target).map Ledger.targetOf = some call.target
  /-- Follow-ups come for pushes that have not failed. -/
  followed : ∀ handle ∈ traffic.handles, handle.isFollowUp = true →
    ∃ call ∈ traffic.calls, call.isLive = true ∧ handle.follows call = true
  /-- What is in flight. -/
  mem_inFlight_iff : traffic.OpenInFlight

namespace Attended

variable {traffic next : Traffic}

/-- A new connection. -/
theorem start (maxPushes : Option Nat) : Attended (start maxPushes) := by
  refine ⟨.empty maxPushes, .start maxPushes, ?_, ?_, ?_, fun id target => ?_⟩
  · intro call h
    cases h
  · intro call h
    cases h
  · intro handle h
    cases h
  · constructor
    · intro h
      cases h
    · rintro ⟨call, h, -⟩
      cases h

/-- A request that gets a handle from a well-behaved host is an origin or a follow-up of a push. -/
theorem followed_of_handleFor (h : traffic.Attended) {headers : Headers} {uri : Uri}
    {canPush : Bool} {handle : Handle} {ledger : Ledger}
    (hopen : traffic.ledger.handleFor headers uri canPush = some (handle, ledger))
    (hadmits : traffic.Admits (.arrive headers uri canPush)) (hfollowUp : handle.isFollowUp = true) :
    ∃ call ∈ traffic.calls, call.isLive = true ∧ handle.follows call = true := by
  rcases Ledger.handleFor_eq_some hopen with
    ⟨-, -, horigin⟩ | ⟨value, hvalue, hread, -, hhandle, -⟩
  · obtain ⟨rfl, -⟩ := Prod.mk.inj horigin
    cases hfollowUp
  · rcases hadmits with hnone | ⟨call, hcall, hlive, hsame, hparse⟩
    · rw [hnone] at hvalue
      cases hvalue
    · rw [hsame, h.correlated call hcall, Option.some.injEq] at hvalue
      rw [← hvalue, readable?_correlation, Option.some.injEq] at hread
      have htarget := h.targetOf_parse call hcall
      rw [hparse, Option.map_some, Option.some.injEq] at htarget
      refine ⟨call, hcall, hlive, Handle.follows_iff.mpr ⟨(correlation_injective hread).symm, ?_⟩⟩
      rw [hhandle, htarget]

/-- No request was a follow-up of a push before that push was entered. -/
theorem not_follows_of_new (h : traffic.Attended) {call : Call}
    (hnew : call.target ∉ traffic.ledger.pushed) :
    ∀ handle ∈ traffic.handles, handle.follows call = false := by
  intro handle hhandle
  rw [Bool.eq_false_iff]
  intro hfollows
  obtain ⟨-, hrole⟩ := Handle.follows_iff.mp hfollows
  obtain ⟨other, hother, hlive, hof⟩ :=
    h.followed handle hhandle (by simp [Handle.isFollowUp, hrole])
  obtain ⟨-, hsame⟩ := Handle.follows_iff.mp hof
  rw [hrole, Role.followUp.injEq] at hsame
  exact hnew ((h.accounted.once.mem_pushed_iff _).mpr
    ⟨other, hother, hsame.symm, Call.holds_of_isLive hlive⟩)

/-- What is in flight after a request got a handle. -/
theorem openInFlight_opened (h : traffic.Attended) {headers : Headers} {uri : Uri}
    {canPush : Bool} {handle : Handle}
    (hopen : traffic.ledger.handleFor headers uri canPush = some (handle, next.ledger))
    (hhandles : next.handles = handle :: traffic.handles) (hcalls : next.calls = traffic.calls) :
    next.OpenInFlight := by
  intro id target
  obtain ⟨hid, -, -, -, hcycles, hreleased⟩ := Ledger.handleFor_accounts hopen
  have hnew := h.registered.not_isReleased_of_id_eq hid
  have hisOpen : ∀ call, next.isOpen call = traffic.isOpen call := by
    intro call
    unfold isOpen Ledger.isReleased
    rw [hhandles, hreleased, List.any_cons]
    unfold Ledger.isReleased at hnew
    rw [hnew, Bool.and_false, Bool.false_or]
  have hinFlight : next.ledger.inFlight id = traffic.ledger.inFlight id := by
    unfold Ledger.inFlight
    rw [hcycles]
  rw [hinFlight, hcalls, h.mem_inFlight_iff]
  simp only [hisOpen]

/-- What is in flight after a push was entered. -/
theorem openInFlight_called (h : traffic.Attended) (call : Call)
    (hpending : call.answer = none)
    (hreserve : traffic.ledger.reserve call.cycle call.target = .ok next.ledger)
    (hhandles : next.handles = traffic.handles) (hcalls : next.calls = call :: traffic.calls) :
    next.OpenInFlight := by
  intro id target
  obtain ⟨hnew, -, hledger⟩ := Ledger.reserve_eq_ok hreserve
  have hisOpen : ∀ call, next.isOpen call = traffic.isOpen call :=
    isOpen_congr hhandles (by rw [hledger]; rfl)
  have hopen : traffic.isOpen call = true := by
    refine isOpen_iff.mpr ⟨by simp [Call.isLive, hpending], fun handle hhandle hfollows => ?_⟩
    rw [h.not_follows_of_new hnew handle hhandle] at hfollows
    cases hfollows
  rw [Ledger.mem_inFlight_reserve hreserve, h.mem_inFlight_iff, hcalls]
  simp only [hisOpen]
  constructor
  · rintro (⟨rfl, rfl⟩ | ⟨other, hother, hrest⟩)
    · exact ⟨call, List.mem_cons_self, rfl, rfl, hopen⟩
    · exact ⟨other, List.mem_cons_of_mem _ hother, hrest⟩
  · rintro ⟨other, hother, rfl, rfl, hotherOpen⟩
    rcases List.mem_cons.mp hother with rfl | hold
    · exact .inl ⟨rfl, rfl⟩
    · exact .inr ⟨other, hold, rfl, rfl, hotherOpen⟩

/-- What is in flight after a call was answered. -/
theorem openInFlight_answered (h : traffic.Attended) {later earlier : List Call} {call : Call}
    {answer : Answer} (hold : traffic.calls = later ++ call :: earlier)
    (hpending : call.answer = none)
    (hledger : next.ledger = traffic.ledger.settle call.cycle call.target answer)
    (hhandles : next.handles = traffic.handles)
    (hcalls : next.calls = later ++ { call with answer := some answer } :: earlier) :
    next.OpenInFlight := by
  intro id target
  have honce := hold ▸ h.accounted.once
  have hholds : call.holds = true := Call.holds_iff.mpr (.inl hpending)
  have hisOpen : ∀ call, next.isOpen call = traffic.isOpen call :=
    isOpen_congr hhandles (by rw [hledger, Ledger.settle_released])
  -- With its answer the call is open if it was open and the push was made.
  have hanswered : traffic.isOpen { call with answer := some answer } = true ↔
      traffic.isOpen call = true ∧ answer.isMade = true := by
    rw [isOpen_iff, isOpen_iff]
    simp only [Call.isLive, hpending, Option.all_some, Option.all_none, true_and]
    exact and_comm
  rw [hledger, h.accounted.balanced.mem_inFlight_settle, h.mem_inFlight_iff, hold, hcalls]
  simp only [hisOpen, List.mem_append, List.mem_cons]
  constructor
  · rintro ⟨⟨other, hin | rfl | hin, hcycle, htarget, hopen⟩, hmade⟩
    · exact ⟨other, .inl hin, hcycle, htarget, hopen⟩
    · exact ⟨_, .inr (.inl rfl), hcycle, htarget,
        hanswered.mpr ⟨hopen, hmade hcycle.symm htarget.symm⟩⟩
    · exact ⟨other, .inr (.inr hin), hcycle, htarget, hopen⟩
  · have hother : ∀ other, other ∈ later ∨ other ∈ earlier → traffic.isOpen other = true →
        other.target ≠ call.target := fun other hin hopen =>
      honce.target_ne_of_holds hholds hin (Call.holds_of_isLive (isOpen_iff.mp hopen).1)
    rintro ⟨other, hin | rfl | hin, rfl, rfl, hopen⟩
    · exact ⟨⟨other, .inl hin, rfl, rfl, hopen⟩,
        fun _ hsame => absurd hsame (hother other (.inl hin) hopen)⟩
    · obtain ⟨hcallOpen, hmade⟩ := hanswered.mp hopen
      exact ⟨⟨call, .inr (.inl rfl), rfl, rfl, hcallOpen⟩, fun _ _ => hmade⟩
    · exact ⟨⟨other, .inr (.inr hin), rfl, rfl, hopen⟩,
        fun _ hsame => absurd hsame (hother other (.inr hin) hopen)⟩

/-- The release of a handle closes the push that it follows, and no other one. -/
theorem isOpen_release (h : traffic.Attended) {handle : Handle}
    (hhandle : handle ∈ traffic.handles) (hledger : next.ledger = traffic.ledger.release handle)
    (hhandles : next.handles = traffic.handles) (call : Call) : next.isOpen call = true ↔
      traffic.isOpen call = true ∧ handle.follows call = false := by
  rw [isOpen_iff, isOpen_iff, hledger, hhandles]
  simp only [Bool.eq_false_iff, ne_eq]
  constructor
  · rintro ⟨hlive, hnone⟩
    refine ⟨⟨hlive, fun other hother hfollows hreleased => hnone other hother hfollows ?_⟩,
      fun hfollows => hnone handle hhandle hfollows ?_⟩
    · exact (h.registered.isReleased_release hhandle hother).mpr (.inr hreleased)
    · exact (h.registered.isReleased_release hhandle hhandle).mpr (.inl rfl)
  · rintro ⟨⟨hlive, hnone⟩, hnot⟩
    refine ⟨hlive, fun other hother hfollows hreleased => ?_⟩
    rcases (h.registered.isReleased_release hhandle hother).mp hreleased with rfl | hbefore
    · exact hnot hfollows
    · exact hnone other hother hfollows hbefore

/-- What is in flight after the release of a handle. -/
theorem openInFlight_released (h : traffic.Attended) {handle : Handle}
    (hhandle : handle ∈ traffic.handles) (hledger : next.ledger = traffic.ledger.release handle)
    (hhandles : next.handles = traffic.handles) (hcalls : next.calls = traffic.calls) :
    next.OpenInFlight := by
  intro id target
  cases hfirst : traffic.ledger.isReleased handle with
  | true =>
      rw [Ledger.release_of_isReleased hfirst] at hledger
      simp only [isOpen_congr hhandles (congrArg Ledger.released hledger)]
      rw [hledger, hcalls]
      exact h.mem_inFlight_iff id target
  | false =>
      simp only [h.isOpen_release hhandle hledger hhandles, hcalls]
      rw [hledger]
      cases hrole : handle.role with
      | origin =>
          have hnot : ∀ call, handle.follows call = false := by simp [Handle.follows, hrole]
          unfold Ledger.inFlight
          rw [Ledger.release_cycles_of_origin hrole]
          simp only [hnot, and_true]
          exact h.mem_inFlight_iff id target
      | followUp name =>
          rw [h.accounted.balanced.mem_inFlight_release hrole hfirst, h.mem_inFlight_iff]
          simp only [Bool.eq_false_iff, ne_eq, Handle.follows_iff, hrole, Role.followUp.injEq]
          constructor
          · rintro ⟨⟨call, hcall, rfl, rfl, hopen⟩, hother⟩
            exact ⟨call, hcall, rfl, rfl, hopen, fun hsame => hother ⟨hsame.1.symm, hsame.2.symm⟩⟩
          · rintro ⟨call, hcall, rfl, rfl, hopen, hother⟩
            exact ⟨⟨call, hcall, rfl, rfl, hopen⟩, fun hsame => hother ⟨hsame.1.symm, hsame.2.symm⟩⟩

/-- With a well-behaved host, what is in flight stays the targets of open pushes. -/
theorem step (h : traffic.Attended) {event : Event} (hadmits : traffic.Admits event) :
    Attended (traffic.step event) := by
  have haccounted := accounted_step event h.accounted
  have hregistered := h.registered.step event
  have hstep := traffic.step_cases event
  generalize traffic.step event = next at haccounted hregistered hstep
  cases hstep with
  | idle =>
      exact ⟨haccounted, hregistered, h.correlated, h.targetOf_parse, h.followed, h.mem_inFlight_iff⟩
  | opened headers uri canPush handle ledger hopen =>
      refine ⟨haccounted, hregistered, h.correlated, h.targetOf_parse, ?_,
        h.openInFlight_opened hopen rfl rfl⟩
      intro other hother hfollowUp
      rcases List.mem_cons.mp hother with rfl | hold
      · exact h.followed_of_handleFor hopen hadmits hfollowUp
      · exact h.followed other hold hfollowUp
  | called handle target headers ledger hhandle hreserve =>
      refine ⟨haccounted, hregistered, ?_, ?_, ?_,
        h.openInFlight_called ⟨handle, target, _, none⟩ rfl hreserve rfl rfl⟩
      · intro call hcall
        rcases List.mem_cons.mp hcall with rfl | hold
        · exact get?_withCorrelation handle.cycle headers
        · exact h.correlated call hold
      · intro call hcall
        rcases List.mem_cons.mp hcall with rfl | hold
        · exact hadmits
        · exact h.targetOf_parse call hold
      · intro other hother hfollowUp
        obtain ⟨call, hcall, hrest⟩ := h.followed other hother hfollowUp
        exact ⟨call, List.mem_cons_of_mem _ hcall, hrest⟩
  | answered place answer later earlier call hplace hcalls hpending =>
      have hcall : call ∈ traffic.calls := by simp [hcalls]
      refine ⟨haccounted, hregistered, ?_, ?_, ?_,
        h.openInFlight_answered hcalls hpending rfl rfl rfl⟩
      · exact Call.forall_mem_of_answered (hcalls ▸ h.correlated) (h.correlated call hcall)
      · exact Call.forall_mem_of_answered (hcalls ▸ h.targetOf_parse) (h.targetOf_parse call hcall)
      · intro handle hhandle hfollowUp
        obtain ⟨other, hother, hlive, hfollows⟩ := h.followed handle hhandle hfollowUp
        simp only [hcalls, List.mem_append, List.mem_cons] at hother ⊢
        rcases hother with hin | rfl | hin
        · exact ⟨other, .inl hin, hlive, hfollows⟩
        · -- A push that has a follow-up does not fail.
          cases answer with
          | ok => exact ⟨_, .inr (.inl rfl), rfl, hfollows⟩
          | error error =>
              rw [hadmits other hplace handle hhandle] at hfollows
              cases hfollows
        · exact ⟨other, .inr (.inr hin), hlive, hfollows⟩
  | released event handle waiting hhandle hwaiting =>
      have hmem : handle ∈ traffic.handles :=
        hhandle.elim id fun hwait => (h.registered.waiting_mem handle hwait).1
      exact ⟨haccounted, hregistered, h.correlated, h.targetOf_parse, h.followed,
        h.openInFlight_released hmem rfl rfl rfl⟩

/-- With a well-behaved host, the outstanding pushes of a cycle are its open ones. -/
theorem outstanding_eq (h : traffic.Attended) (id : CycleId) :
    (traffic.ledger.cycles id).outstanding = traffic.openPushes id := by
  have hbalanced := h.accounted.balanced id
  have hperm : ((traffic.calls.filter fun call => call.cycle = id && traffic.isOpen call).map
      Call.target).Perm (traffic.ledger.inFlight id) := by
    refine (List.perm_ext_iff_of_nodup ?_ hbalanced.simple.nodup).mpr fun target => ?_
    · -- Open pushes hold their targets, and no two calls hold the same.
      rw [List.nodup_iff_pairwise_ne, List.pairwise_map]
      refine (h.accounted.once.refused_of_earlier.sublist List.filter_sublist).imp_of_mem ?_
      intro later earlier _ hearlier hrefused hsame
      have hopen := (List.mem_filter.mp hearlier).2
      simp only [Bool.and_eq_true, decide_eq_true_eq] at hopen
      have hholds := Call.holds_of_isLive (isOpen_iff.mp hopen.2).1
      rw [hrefused hsame] at hholds
      cases hholds
    · refine Iff.trans ?_ (h.mem_inFlight_iff id target).symm
      simp only [List.mem_map, List.mem_filter, Bool.and_eq_true, decide_eq_true_eq]
      constructor
      · rintro ⟨call, ⟨hcall, hcycle, hopen⟩, htarget⟩
        exact ⟨call, hcall, hcycle, htarget, hopen⟩
      · rintro ⟨call, hcall, hcycle, htarget, hopen⟩
        exact ⟨call, ⟨hcall, hcycle, hopen⟩, htarget⟩
  calc (traffic.ledger.cycles id).outstanding
      = (traffic.ledger.inFlight id).length := by
        rw [hbalanced.outstanding_eq, hbalanced.simple.total_eq_length]
        rfl
    _ = traffic.openPushes id := by
        rw [← hperm.length_eq, List.length_map, ← List.countP_eq_length_filter]
        rfl

end Attended

/-! ## Runs -/

/-- With a well-behaved host, what is in flight are always the targets of open pushes. -/
theorem attended_run {maxPushes : Option Nat} {events : List Event}
    (hadmits : (start maxPushes).AdmitsAll events) : Attended (run maxPushes events) := by
  induction events using List.reverseRecOn with
  | nil => exact .start maxPushes
  | append_singleton events event ih =>
      obtain ⟨hevents, hevent⟩ := admitsAll_append_singleton.mp hadmits
      unfold run
      rw [List.foldl_append]
      exact (ih hevents).step hevent

/-- **An origin waits for exactly its own pushes.** After any steps of a well-behaved host, the
outstanding pushes of a cycle are those made through its handles that did not fail and of which no
follow-up has been released. So a wait of an origin ends, when it is tried, exactly if there are
none in its own cycle, and so does the first try. A follow-up never waits, nor does a request that is
not to wait or that was released. -/
theorem outstanding_eq_openPushes (maxPushes : Option Nat) (events : List Event)
    (hadmits : (start maxPushes).AdmitsAll events) :
    (∀ id, ((run maxPushes events).ledger.cycles id).outstanding =
      (run maxPushes events).openPushes id) ∧
    (∀ handle ∈ (run maxPushes events).waiting,
      handle.isFollowUp = false ∧
      (((run maxPushes events).ledger.poll? handle).isSome = true ↔
        (run maxPushes events).openPushes handle.cycle = 0)) ∧
    (∀ handle ∈ (run maxPushes events).handles, handle.isFollowUp = false →
      (run maxPushes events).ledger.isReleased handle = false →
      (((run maxPushes events).ledger.finish? handle true).isSome = true ↔
        (run maxPushes events).openPushes handle.cycle = 0)) ∧
    ∀ handle wait, handle.isFollowUp = true ∨ wait = false ∨
        (run maxPushes events).ledger.isReleased handle = true →
      ((run maxPushes events).ledger.finish? handle wait).isSome = true := by
  have h := attended_run hadmits
  refine ⟨h.outstanding_eq, fun handle hwait => ⟨(h.registered.waiting_mem handle hwait).2, ?_⟩,
    fun handle hhandle horigin hfirst => ?_, fun handle wait => Ledger.finish?_isSome_of_not_waiting⟩
  · rw [Ledger.poll?_isSome, h.outstanding_eq]
  · rw [Ledger.finish?_of_origin horigin hfirst, Ledger.poll?_isSome, h.outstanding_eq]

/-- The follow-up of a push comes while the transport is called, and pushes on; that push fails.
Then the origin waits. -/
def nestedPushes : List Event :=
  [.arrive ⟨[]⟩ ⟨none, none, "/books/1", none⟩ true,
    .push ⟨0, 0, .origin⟩ "/users/5" ⟨[]⟩,
    .arrive (withCorrelation 0 ⟨[]⟩) ⟨none, none, "/users/5", none⟩ true,
    .push ⟨1, 0, .followUp "/users/5"⟩ "/teams/2" ⟨[]⟩,
    .answer 0 (.error (.transport "refused stream")),
    .answer 1 (.ok ()),
    .finish ⟨0, 0, .origin⟩ true]

/-- The origin waits for the one push that is open, and no longer than that. -/
theorem outstanding_nestedPushes :
    (start none).AdmitsAll nestedPushes ∧
    ((run none nestedPushes).ledger.cycles 0).outstanding = 1 ∧
    (run none nestedPushes).waiting = [⟨0, 0, .origin⟩] ∧
    ¬ ((run none nestedPushes).ledger.poll? ⟨0, 0, .origin⟩).isSome = true ∧
    ((run none (nestedPushes ++ [.drop ⟨1, 0, .followUp "/users/5"⟩])).ledger.poll?
      ⟨0, 0, .origin⟩).isSome = true := by
  obtain ⟨hcount, hwait, -, -⟩ := outstanding_eq_openPushes none nestedPushes (by decide)
  obtain ⟨-, hover, -, -⟩ := outstanding_eq_openPushes none
    (nestedPushes ++ [.drop ⟨1, 0, .followUp "/users/5"⟩]) (by decide)
  have hone : (run none nestedPushes).openPushes 0 = 1 := by decide
  have hwaiting : (run none nestedPushes).waiting = [⟨0, 0, .origin⟩] := by decide
  refine ⟨by decide, (hcount 0).trans hone, hwaiting, ?_, ?_⟩
  · rw [(hwait ⟨0, 0, .origin⟩ (by simp [hwaiting])).2, hone]
    exact Nat.one_ne_zero
  · exact (hover ⟨0, 0, .origin⟩ (by decide)).2.mpr (by decide)

end Traffic

end Hypermedia.Push
