import Hypermedia.Proofs.Push.Traffic

/-!
# A target is pushed at most once

The ledger of a connection remembers a target from the moment a push of it is entered until the
transport refuses that push. So while a push of a target is in progress, or once it was made, the
transport is not asked for the target again, in whichever cycle it is found.

* `OncePerTarget` is the invariant: the targets on the ledger are those of the calls that hold
  theirs, and of the calls for one target only the last can hold it.
* `Traffic.target_pushed_at_most_once` reads the ledger off the last call for a target, and says
  which calls came before a new one.
-/

namespace Hypermedia.Push

/-- The targets that count as pushed are those of the calls that hold theirs, and no call for a
target was made after one that holds it. -/
structure OncePerTarget (pushed : List String) (calls : List Call) : Prop where
  /-- What counts as pushed. -/
  mem_pushed_iff : ∀ target,
    target ∈ pushed ↔ ∃ call ∈ calls, call.target = target ∧ call.holds = true
  /-- Only the last call for a target can hold it. -/
  refused_of_earlier : calls.Pairwise fun later earlier =>
    later.target = earlier.target → earlier.holds = false

namespace OncePerTarget

variable {pushed : List String} {calls : List Call}

/-- A new connection. -/
theorem nil : OncePerTarget [] [] :=
  ⟨by simp, .nil⟩

/-- Where a target does not count as pushed, every call for it was refused. -/
theorem holds_eq_false_of_not_mem (h : OncePerTarget pushed calls) {call : Call}
    (hcall : call ∈ calls) (hnew : call.target ∉ pushed) : call.holds = false := by
  cases hholds : call.holds with
  | false => rfl
  | true => exact absurd ((h.mem_pushed_iff _).mpr ⟨call, hcall, rfl, hholds⟩) hnew

/-- Two calls that hold the same target are one. -/
theorem eq_of_holds (h : OncePerTarget pushed calls) {a b : Call} (ha : a ∈ calls) (hb : b ∈ calls)
    (htarget : a.target = b.target) (haholds : a.holds = true) (hbholds : b.holds = true) :
    a = b := by
  refine List.Pairwise.forall_of_forall_of_flip (R := fun x y : Call =>
    x.target = y.target → x.holds = true → y.holds = true → x = y)
    (fun _ _ _ _ _ => rfl) ?_ ?_ ha hb htarget haholds hbholds
  · refine h.refused_of_earlier.imp fun {x y} hxy hsame _ hy => ?_
    rw [hxy hsame] at hy
    cases hy
  · refine h.refused_of_earlier.imp fun {x y} hxy hsame hy _ => ?_
    rw [hxy hsame.symm] at hy
    cases hy

/-- A push that is entered is the last call for its target. -/
theorem cons (h : OncePerTarget pushed calls) (call : Call) (hnew : call.target ∉ pushed)
    (hpending : call.answer = none) : OncePerTarget (call.target :: pushed) (call :: calls) := by
  have hholds : call.holds = true := Call.holds_iff.mpr (.inl hpending)
  refine ⟨fun target => ?_, List.pairwise_cons.mpr ⟨?_, h.refused_of_earlier⟩⟩
  · rw [List.mem_cons, h.mem_pushed_iff]
    constructor
    · rintro (rfl | ⟨other, hother, htarget⟩)
      · exact ⟨call, List.mem_cons_self, rfl, hholds⟩
      · exact ⟨other, List.mem_cons_of_mem _ hother, htarget⟩
    · rintro ⟨other, hother, rfl, hheld⟩
      rcases List.mem_cons.mp hother with rfl | hold
      · exact .inl rfl
      · exact .inr ⟨other, hold, rfl, hheld⟩
  · intro earlier hearlier htarget
    exact h.holds_eq_false_of_not_mem hearlier (htarget ▸ hnew)

/-- Where a call holds its target, no other call holds the same. -/
theorem target_ne_of_holds {later earlier : List Call} {call other : Call}
    (h : OncePerTarget pushed (later ++ call :: earlier)) (hholds : call.holds = true)
    (hother : other ∈ later ∨ other ∈ earlier) (hheld : other.holds = true) :
    other.target ≠ call.target := by
  obtain ⟨-, hrest, hacross⟩ := List.pairwise_append.mp h.refused_of_earlier
  intro hsame
  rcases hother with hin | hin
  · rw [hacross other hin call List.mem_cons_self hsame] at hholds
    cases hholds
  · rw [(List.pairwise_cons.mp hrest).1 other hin hsame.symm] at hheld
    cases hheld

/-- An answer decides whether the target of its call stays on the ledger. -/
theorem answer {later earlier : List Call} {call : Call} {answer : Answer} {pushed' : List String}
    (h : OncePerTarget pushed (later ++ call :: earlier)) (hpending : call.answer = none)
    (hpushed : ∀ target,
      target ∈ pushed' ↔ target ∈ pushed ∧ (target = call.target → answer.isKept = true)) :
    OncePerTarget pushed' (later ++ { call with answer := some answer } :: earlier) := by
  have hholds : call.holds = true := Call.holds_iff.mpr (.inl hpending)
  obtain ⟨hlater, hrest, hacross⟩ := List.pairwise_append.mp h.refused_of_earlier
  obtain ⟨hcall, hearlier⟩ := List.pairwise_cons.mp hrest
  refine ⟨fun target => ?_, List.pairwise_append.mpr
    ⟨hlater, List.pairwise_cons.mpr ⟨hcall, hearlier⟩, ?_⟩⟩
  · rw [hpushed, h.mem_pushed_iff]
    simp only [List.mem_append, List.mem_cons]
    constructor
    · rintro ⟨⟨other, hin | rfl | hin, rfl, hheld⟩, hkept⟩
      · exact ⟨other, .inl hin, rfl, hheld⟩
      · exact ⟨_, .inr (.inl rfl), rfl, hkept rfl⟩
      · exact ⟨other, .inr (.inr hin), rfl, hheld⟩
    · rintro ⟨other, hin | rfl | hin, rfl, hheld⟩
      · exact ⟨⟨other, .inl hin, rfl, hheld⟩,
          fun hsame => absurd hsame (h.target_ne_of_holds hholds (.inl hin) hheld)⟩
      · exact ⟨⟨call, .inr (.inl rfl), rfl, hholds⟩, fun _ => hheld⟩
      · exact ⟨⟨other, .inr (.inr hin), rfl, hheld⟩,
          fun hsame => absurd hsame (h.target_ne_of_holds hholds (.inr hin) hheld)⟩
  · intro before hbefore after hafter
    rcases List.mem_cons.mp hafter with rfl | hin
    · intro hsame
      rw [hacross before hbefore call List.mem_cons_self hsame] at hholds
      cases hholds
    · exact hacross before hbefore after (List.mem_cons_of_mem _ hin)

/-- The last call for a target holds it exactly if some call does. -/
theorem mem_pushed_iff_find? (h : OncePerTarget pushed calls) (target : String) :
    target ∈ pushed ↔
      ∃ call, calls.find? (·.target = target) = some call ∧ call.holds = true := by
  rw [h.mem_pushed_iff]
  constructor
  · rintro ⟨call, hcall, htarget, hholds⟩
    obtain ⟨last, hlast⟩ := Option.isSome_iff_exists.mp
      (List.find?_isSome (p := fun c : Call => decide (c.target = target)).mpr
        ⟨call, hcall, by simpa using htarget⟩)
    refine ⟨last, hlast, ?_⟩
    obtain ⟨hlastTarget, later, earlier, hsplit, hlater⟩ := List.find?_eq_some_iff_append.mp hlast
    rw [hsplit] at hcall h
    rcases List.mem_append.mp hcall with hin | hin
    · simpa [htarget] using hlater call hin
    · rcases List.mem_cons.mp hin with rfl | hin
      · exact hholds
      · obtain ⟨-, hrest, -⟩ := List.pairwise_append.mp h.refused_of_earlier
        have hrefused := (List.pairwise_cons.mp hrest).1 call hin
          ((of_decide_eq_true hlastTarget).trans htarget.symm)
        rw [hrefused] at hholds
        cases hholds
  · rintro ⟨call, hfind, hholds⟩
    exact ⟨call, List.mem_of_find?_eq_some hfind, by simpa using List.find?_some hfind, hholds⟩

end OncePerTarget

/-! ## Runs -/

namespace Traffic

/-- Each step preserves that a target is pushed at most once. -/
theorem oncePerTarget_step {traffic : Traffic} (event : Event)
    (h : OncePerTarget traffic.ledger.pushed traffic.calls) :
    OncePerTarget (traffic.step event).ledger.pushed (traffic.step event).calls := by
  have hstep := traffic.step_cases event
  generalize traffic.step event = next at hstep
  cases hstep with
  | idle => exact h
  | opened headers uri canPush handle ledger hopen =>
      obtain ⟨-, -, -, hpushed, -, -⟩ := Ledger.handleFor_accounts hopen
      simp only [hpushed]
      exact h
  | called handle target headers ledger hhandle hreserve =>
      obtain ⟨hnew, -, rfl⟩ := Ledger.reserve_eq_ok hreserve
      exact h.cons ⟨handle, target, _, none⟩ hnew rfl
  | answered place answer later earlier call hplace hcalls hpending =>
      rw [hcalls] at h
      exact h.answer hpending fun target => Ledger.mem_settle_pushed
  | released event handle waiting hhandle hwaiting =>
      simp only [Ledger.release_pushed]
      exact h

/-- In every state of a connection, a target was pushed at most once. -/
theorem oncePerTarget_run (maxPushes : Option Nat) (events : List Event) :
    OncePerTarget (run maxPushes events).ledger.pushed (run maxPushes events).calls :=
  run_induction (P := fun traffic => OncePerTarget traffic.ledger.pushed traffic.calls) .nil
    (fun _ event h => oncePerTarget_step event h) events

/-- A step that calls the transport does so for a target that does not count as pushed. -/
theorem not_mem_pushed_of_call {traffic : Traffic} {event : Event} {call : Call}
    (h : (traffic.step event).calls = call :: traffic.calls) :
    call.target ∉ traffic.ledger.pushed := by
  have hstep := traffic.step_cases event
  generalize traffic.step event = next at h hstep
  cases hstep with
  | called handle target headers ledger hhandle hreserve =>
      obtain ⟨rfl, -⟩ := List.cons.inj h
      exact (Ledger.reserve_eq_ok hreserve).1
  | answered place answer later earlier other hplace hcalls hpending =>
      have hlength := congrArg List.length h
      simp [hcalls] at hlength
  | idle | opened | released => exact absurd h List.ne_cons_self

/-- **A target is pushed at most once.** After any steps on a connection, a target counts as pushed
exactly if the last call for it is in progress, has succeeded, or was answered that the target is
known as pushed. And every call for a target that was made before a new one has failed. -/
theorem target_pushed_at_most_once (maxPushes : Option Nat) (events : List Event) :
    (∀ target, (run maxPushes events).ledger.isPushed target = true ↔
      ∃ call, (run maxPushes events).calls.find? (·.target = target) = some call ∧
        (call.answer = none ∨ call.answer = some (.ok ()) ∨
          call.answer = some (.error .alreadyPushed))) ∧
    ∀ event call, ((run maxPushes events).step event).calls = call :: (run maxPushes events).calls →
      ∀ earlier ∈ (run maxPushes events).calls, earlier.target = call.target →
        ∃ error, earlier.answer = some (.error error) ∧ error ≠ .alreadyPushed := by
  have honce := oncePerTarget_run maxPushes events
  constructor
  · intro target
    simp only [← Call.holds_iff]
    rw [← honce.mem_pushed_iff_find? target]
    unfold Ledger.isPushed
    exact List.contains_iff_mem
  · intro event call hcall earlier hearlier hsame
    have hnew := not_mem_pushed_of_call hcall
    exact Call.holds_eq_false_iff.mp (honce.holds_eq_false_of_not_mem hearlier (hsame ▸ hnew))

end Traffic

end Hypermedia.Push
