import Hypermedia.Proofs.Delivery.NothingLost
import Hypermedia.Proofs.Push.Spending

/-!
# Which relations are pushed

Where the host accepts every push, the budget of a cycle is spent on the relations of a response in
document order, and all that it does not cover get links.

* `Service.freshTargets` are the relations that may be pushed and were not before, `Service.afforded`
  those that the budget covers; `Service.isUnspent` says which relations get links then.
* `Spending` is what holds when some relations have been delivered.
* `Service.budget_spent_in_order` is what holds when a response was processed.
-/

namespace Hypermedia

open Delivery Push

namespace Service

/-! ## What is pushed and what gets a link -/

section

variable (service : Service) (ledger : Ledger)

/-- Whether a relation may be pushed and was not pushed before. -/
def isFresh (relation : Relation) : Bool :=
  !isNeverPushed service.settings relation && !ledger.isPushed relation.text

/-- The targets of the relations that may be pushed and were not pushed before, in the order of their
first appearance. -/
def freshTargets (relations : List Relation) : List String :=
  ((relations.filter (service.isFresh ledger)).map (·.text)).eraseDups

/-- The first of them, as many as the budget of a cycle covers. -/
def afforded (id : CycleId) (relations : List Relation) : List String :=
  affordable (ledger.budgetLeft? id) (service.freshTargets ledger relations)

/-- Whether a relation gets a link where some targets are pushed: if it may not be pushed, or if it was
pushed neither before nor now. -/
def isUnspent (targets : List String) (relation : Relation) : Bool :=
  isNeverPushed service.settings relation ||
    service.isFresh ledger relation && !targets.contains relation.text

end

variable {service : Service} {ledger : Ledger} {relations : List Relation} {relation : Relation}
  {targets : List String}

/-- A relation is fresh exactly if it may be pushed and does not count as pushed. -/
theorem isFresh_iff : service.isFresh ledger relation = true ↔
    isNeverPushed service.settings relation = false ∧ relation.text ∉ ledger.pushed := by
  simp [isFresh, Ledger.isPushed]

/-- What may be pushed stays the same with a relation that is not fresh. -/
theorem freshTargets_concat_of_not_isFresh (h : service.isFresh ledger relation = false) :
    service.freshTargets ledger (relations ++ [relation]) =
      service.freshTargets ledger relations := by
  simp [freshTargets, h]

/-- One more relation that is fresh, whether or not it came before. -/
theorem freshTargets_concat_of_isFresh (h : service.isFresh ledger relation = true) :
    service.freshTargets ledger (relations ++ [relation]) =
      ((relations.filter (service.isFresh ledger)).map (·.text) ++ [relation.text]).eraseDups := by
  simp [freshTargets, h]

/-- What may be pushed stays the same with a relation that came before. -/
theorem freshTargets_concat_of_mem (hfresh : service.isFresh ledger relation = true)
    (h : relation.text ∈ service.freshTargets ledger relations) :
    service.freshTargets ledger (relations ++ [relation]) =
      service.freshTargets ledger relations := by
  rw [freshTargets_concat_of_isFresh hfresh, eraseDups_concat_of_mem (List.mem_eraseDups.mp h)]
  rfl

/-- One more relation may be pushed. -/
theorem freshTargets_concat (hfresh : service.isFresh ledger relation = true)
    (h : relation.text ∉ service.freshTargets ledger relations) :
    service.freshTargets ledger (relations ++ [relation]) =
      service.freshTargets ledger relations ++ [relation.text] := by
  rw [freshTargets_concat_of_isFresh hfresh,
    eraseDups_concat_of_not_mem (List.mem_eraseDups.not.mp h)]
  rfl

/-- A fresh relation is among those that may be pushed. -/
theorem mem_freshTargets (hmem : relation ∈ relations)
    (hfresh : service.isFresh ledger relation = true) :
    relation.text ∈ service.freshTargets ledger relations := by
  unfold freshTargets
  rw [List.mem_eraseDups, List.mem_map]
  exact ⟨relation, List.mem_filter.mpr ⟨hmem, hfresh⟩, rfl⟩

/-- What is afforded may be pushed. -/
theorem freshTargets_of_mem_afforded {id : CycleId} {target : String}
    (h : target ∈ service.afforded ledger id relations) :
    target ∈ service.freshTargets ledger relations := by
  unfold afforded affordable at h
  split at h
  · exact h
  · exact List.mem_of_mem_take h

/-- A relation that is not fresh costs nothing. -/
theorem afforded_concat_of_not_isFresh {id : CycleId}
    (h : service.isFresh ledger relation = false) :
    service.afforded ledger id (relations ++ [relation]) = service.afforded ledger id relations := by
  unfold afforded
  rw [freshTargets_concat_of_not_isFresh h]

/-- A relation that is afforded costs nothing when it comes again. -/
theorem afforded_concat_of_mem {id : CycleId} (hfresh : service.isFresh ledger relation = true)
    (h : relation.text ∈ service.afforded ledger id relations) :
    service.afforded ledger id (relations ++ [relation]) = service.afforded ledger id relations := by
  have hmem := freshTargets_of_mem_afforded h
  unfold afforded
  rw [freshTargets_concat_of_mem hfresh hmem]

/-- Where the budget covers no more pushes, no relation is afforded any more. -/
theorem afforded_concat_of_not_covers {id : CycleId}
    (h : ¬Covers (ledger.budgetLeft? id) (service.freshTargets ledger relations).length)
    (hfresh : service.isFresh ledger relation = true) :
    service.afforded ledger id (relations ++ [relation]) = service.afforded ledger id relations := by
  unfold afforded
  by_cases hmem : relation.text ∈ service.freshTargets ledger relations
  · rw [freshTargets_concat_of_mem hfresh hmem]
  · rw [freshTargets_concat hfresh hmem, affordable_concat_of_not_covers h]

/-- Where the budget covers one more push, a new relation is afforded. -/
theorem afforded_concat {id : CycleId}
    (h : Covers (ledger.budgetLeft? id) (service.freshTargets ledger relations).length)
    (hfresh : service.isFresh ledger relation = true)
    (hnew : relation.text ∉ service.freshTargets ledger relations) :
    service.afforded ledger id (relations ++ [relation]) =
      service.afforded ledger id relations ++ [relation.text] := by
  unfold afforded
  rw [freshTargets_concat hfresh hnew, h.affordable_concat]

/-- A new target takes no link from the relations before. -/
theorem filter_isUnspent_concat {target : String}
    (h : target ∉ service.freshTargets ledger relations) :
    relations.filter (service.isUnspent ledger (targets ++ [target])) =
      relations.filter (service.isUnspent ledger targets) := by
  refine List.filter_congr fun other hother => ?_
  unfold isUnspent
  cases hfresh : service.isFresh ledger other with
  | false => rfl
  | true =>
      have hne : other.text ≠ target := fun heq => h (heq ▸ mem_freshTargets hother hfresh)
      simp [hne]

end Service

/-! ## Some relations -/

/-- What holds when some relations of a response have been delivered, since a state before. -/
structure Spending (service : Service) (id : CycleId) (before : World Record)
    (relations : List Relation) (progress : Progress (World Record)) : Prop where
  /-- What was pushed is what the budget covers. -/
  spent : Spent id before (service.afforded before.ledger id relations) progress.world
  /-- All else that was not pushed before has its link. -/
  links : progress.links =
    ((relations.filter (service.isUnspent before.ledger
      (service.afforded before.ledger id relations))).map service.link).eraseDups

namespace Spending

variable {service : Service} {request : Request} {host : Host} {id : CycleId}
  {before after : World Record} {relations : List Relation} {progress : Progress (World Record)}
  {relation : Relation}

/-- Nothing has been delivered. -/
theorem nil (service : Service) (id : CycleId) (before : World Record) (preloaded : Bool) :
    Spending service id before [] ⟨[], preloaded, before⟩ := by
  have hnone : service.afforded before.ledger id [] = [] := affordable_nil _
  refine ⟨?_, rfl⟩
  rw [hnone]
  exact .nil id before

/-- A relation gets its link, and what is afforded stays the same. -/
theorem linked (h : Spending service id before relations progress) (preloaded : Bool)
    (hsame : service.afforded before.ledger id (relations ++ [relation]) =
      service.afforded before.ledger id relations)
    (hunspent : service.isUnspent before.ledger (service.afforded before.ledger id relations)
      relation = true) :
    Spending service id before (relations ++ [relation])
      ⟨addLink progress.links (some (service.link relation)), preloaded, progress.world⟩ where
  spent := hsame ▸ h.spent
  links := by
    rw [hsame, List.filter_append, List.filter_singleton, hunspent, cond_true, List.map_append,
      List.map_singleton, ← addLink_eraseDups, ← h.links]

/-- A relation that was pushed gets no link, and what is afforded stays the same. -/
theorem known (h : Spending service id before relations progress) (preloaded : Bool)
    (hsame : service.afforded before.ledger id (relations ++ [relation]) =
      service.afforded before.ledger id relations)
    (hspent : service.isUnspent before.ledger (service.afforded before.ledger id relations)
      relation = false) :
    Spending service id before (relations ++ [relation])
      ⟨progress.links, preloaded, progress.world⟩ where
  spent := hsame ▸ h.spent
  links := by
    rw [hsame, List.filter_append, List.filter_singleton, hspent, cond_false, List.append_nil]
    exact h.links

/-- A relation is pushed. -/
theorem pushed (h : Spending service id before relations progress) (preloaded : Bool)
    (hfresh : service.isFresh before.ledger relation = true)
    (hnew : relation.text ∉ service.freshTargets before.ledger relations)
    (hcovers : Covers (before.ledger.budgetLeft? id)
      (service.freshTargets before.ledger relations).length)
    (hspent : Spent id before (service.afforded before.ledger id relations ++ [relation.text])
      after) :
    Spending service id before (relations ++ [relation]) ⟨progress.links, preloaded, after⟩ := by
  have hafforded := Service.afforded_concat hcovers hfresh hnew
  refine ⟨hafforded ▸ hspent, ?_⟩
  have hlast : service.isUnspent before.ledger
      (service.afforded before.ledger id relations ++ [relation.text]) relation = false := by
    simp [Service.isUnspent, (Service.isFresh_iff.mp hfresh).1]
  -- No relation before has this target, so none of them has lost its link.
  rw [hafforded, List.filter_append, List.filter_singleton, hlast, cond_false, List.append_nil,
    Service.filter_isUnspent_concat hnew]
  exact h.links

/-- A fresh relation that has not been pushed yet is pushed if the budget covers it, and gets its link
otherwise. -/
theorem concat_of_fresh {handle : Handle}
    (h : Spending service handle.cycle before relations progress) (hhost : host.Accepting)
    (hlink : linkOf? service.settings relation = some (service.link relation)) (headers : Headers)
    (preloaded : Bool) (hfresh : service.isFresh before.ledger relation = true)
    (hnew : relation.text ∉ service.afforded before.ledger handle.cycle relations) :
    let outcome := (push host.transport handle.cycle relation.text headers).run progress.world
    Spending service handle.cycle before (relations ++ [relation])
      ⟨addLink progress.links (if outcome.1.isKept then none else linkOf? service.settings relation),
        preloaded, outcome.2⟩ := by
  have hunknown : ¬(relation.text ∈ before.ledger.pushed ∨
      relation.text ∈ service.afforded before.ledger handle.cycle relations) :=
    not_or.mpr ⟨(Service.isFresh_iff.mp hfresh).2, hnew⟩
  by_cases hcovers : Covers (before.ledger.budgetLeft? handle.cycle)
      (service.freshTargets before.ledger relations).length
  · obtain ⟨after, hpush, hspent⟩ := h.spent.push_of_covered hhost hunknown
      (covers_length_affordable.mpr hcovers) headers
    rw [hpush]
    refine h.pushed preloaded hfresh ?_ hcovers hspent
    -- As long as the budget lasts, all that is fresh was afforded.
    unfold Service.afforded at hnew
    rw [hcovers.affordable_eq] at hnew
    exact hnew
  · obtain ⟨limit, hpush⟩ := h.spent.push_of_spent host hunknown
      (covers_length_affordable.not.mpr hcovers) headers
    have hrefused : ¬Answer.isKept (.error (.budgetExhausted limit)) = true := by
      simp [Answer.isKept]
    rw [hpush]
    dsimp only
    rw [if_neg hrefused, hlink]
    refine h.linked preloaded (Service.afforded_concat_of_not_covers hcovers hfresh) ?_
    simp [Service.isUnspent, hfresh, hnew]

/-- One more relation is delivered. -/
theorem concat {handle : Handle} (h : Spending service handle.cycle before relations progress)
    (hhost : host.Accepting)
    (hlink : linkOf? service.settings relation = some (service.link relation)) (headers : Headers)
    (preloaded : Bool) :
    let outcome := (deliver service.settings (host.pusher (some handle)) headers relation).run
      progress.world
    Spending service handle.cycle before (relations ++ [relation])
      ⟨addLink progress.links outcome.1, preloaded, outcome.2⟩ := by
  cases hnever : isNeverPushed service.settings relation with
  | true =>
      rw [deliver_run_of_isNeverPushed hnever, hlink]
      refine h.linked preloaded (Service.afforded_concat_of_not_isFresh ?_) ?_
      · simp [Service.isFresh, hnever]
      · simp [Service.isUnspent, hnever]
  | false =>
      rw [Host.pusher, Option.map_some, deliver_run_of_pusher hnever]
      cases hfresh : service.isFresh before.ledger relation with
      | false =>
          have hbefore : relation.text ∈ before.ledger.pushed := by
            by_contra hnew
            rw [Service.isFresh_iff.mpr ⟨hnever, hnew⟩] at hfresh
            cases hfresh
          rw [h.spent.push_of_known host (.inl hbefore)]
          refine h.known preloaded (Service.afforded_concat_of_not_isFresh hfresh) ?_
          simp [Service.isUnspent, hnever, hfresh]
      | true =>
          by_cases hnow : relation.text ∈ service.afforded before.ledger handle.cycle relations
          · rw [h.spent.push_of_known host (.inr hnow)]
            refine h.known preloaded (Service.afforded_concat_of_mem hfresh hnow) ?_
            simp [Service.isUnspent, hnever, hnow]
          · exact h.concat_of_fresh hhost hlink headers preloaded hfresh hnow

/-- All strings are delivered, in order. -/
theorem foldl_advance (service : Service) (request : Request) (hhost : host.Accepting)
    (handle : Handle) (before : World Record) (founds : List Found)
    (hlink : ∀ found ∈ founds, ∀ relation, service.relation? request found = some relation →
      linkOf? service.settings relation = some (service.link relation)) :
    Spending service handle.cycle before (founds.filterMap (service.relation? request))
      (founds.foldl (service.advance request (host.pusher (some handle))) ⟨[], false, before⟩) :=
  Service.foldl_advance_of_deliver service request _ (.nil service handle.cycle before false) founds
    fun found hfound relation hrelation _ _ h =>
      h.concat hhost (hlink found hfound relation hrelation) _ true

end Spending

/-! ## Whole responses -/

namespace Service

/-- With pushing disabled no relation may be pushed. -/
theorem isNeverPushed_of_disabled {settings : Settings} (h : settings.maxPushes = some 0)
    (relation : Relation) : isNeverPushed settings relation = true := by
  simp [isNeverPushed, Settings.pushDisabled, h]

/-- With pushing enabled relations of the same origin may be pushed. -/
theorem isNeverPushed_of_enabled {settings : Settings} (h : settings.maxPushes ≠ some 0)
    (relation : Relation) : isNeverPushed settings relation = !relation.sameOrigin := by
  simp [isNeverPushed, Settings.pushDisabled, h]

/-- With pushing disabled nothing is afforded. -/
theorem afforded_of_disabled {service : Service} (h : service.settings.maxPushes = some 0)
    (ledger : Ledger) (id : CycleId) (relations : List Relation) :
    service.afforded ledger id relations = [] := by
  have hnone : relations.filter (service.isFresh ledger) = [] := by
    rw [List.filter_eq_nil_iff]
    intro relation _
    simp [isFresh, isNeverPushed_of_disabled h]
  unfold afforded freshTargets
  rw [hnone]
  exact affordable_nil _

/-- With pushing disabled every relation gets its link. -/
theorem filter_isUnspent_of_disabled {service : Service}
    (h : service.settings.maxPushes = some 0) (ledger : Ledger) (targets : List String)
    (relations : List Relation) : relations.filter (service.isUnspent ledger targets) = relations := by
  rw [List.filter_eq_self]
  intro relation _
  simp [isUnspent, isNeverPushed_of_disabled h]

/-- What was pushed and what has a link when a response was processed. -/
theorem exists_spending (service : Service) (request : Request) {host : Host}
    (hhost : host.Accepting) (handle : Handle) (offersHints : Bool) (received : Bytes)
    (headers : Headers) (world : World Record)
    (hbase : ∀ base, service.settings.apiUrl = some base →
      (Bytes.ofString base).all isFieldByte = true) :
    ∃ body fields progress,
      (service.apply request (host.pusher (some handle))
        (if offersHints then some Host.sendHint else none) (.ok received) headers).run world =
          ((.ok body, fields), progress.world) ∧
      fields.getAll "link" = headers.getAll "link" ++ progress.links ∧
      Spending service handle.cycle world (service.relations request received) progress := by
  rcases request.nothing_or_document received with hunchanged | ⟨hempty, document, hdocument⟩
  · refine ⟨_, _, ⟨[], false, world⟩, apply_run_of_unchanged _ _ headers world hunchanged, ?_, ?_⟩
    · rw [getAll_link_withLength, List.append_nil]
    · unfold relations
      rw [Request.found_eq_nil hunchanged]
      exact .nil service handle.cycle world false
  · have hspending := Spending.foldl_advance service request hhost handle world
      (request.tree.found document) fun found _ relation hrelation =>
        linkOf?_eq_some hbase (isPrintable_text_of_relation? hrelation)
    have hrun := apply_run_of_processed service (host.pusher (some handle))
      (if offersHints then some Host.sendHint else none) headers world hempty hdocument
    generalize (request.tree.found document).foldl
      (service.advance request (host.pusher (some handle))) ⟨[], false, world⟩ = progress
      at hspending hrun
    obtain ⟨hledger, hpushes⟩ := service.hinted_sendHint offersHints progress.links _ progress.world
    refine ⟨_, _, { progress with world := _ }, hrun, getAll_link_responseHeaders _ _ _ _ _, ?_⟩
    unfold relations Request.found
    rw [hdocument]
    exact ⟨hspending.spent.congr hledger hpushes, hspending.links⟩

/-- **The budget of a cycle is spent in document order.** Let the host accept every push and push
nothing itself. When a response was processed, the host was asked for pushes of the first distinct
relations of the same origin that did not count as pushed before, in the order of their first appearance
in the document, as many as the budget of the cycle covered. The links that were added are, in the same
order and without repetitions, those of the relations of other origins and of the relations of the same
origin that were pushed neither before nor now. With pushing disabled nothing is pushed, and all
relations get links. A link tells the client not to wait exactly if pushing is disabled or the relation
has another origin. -/
theorem budget_spent_in_order (service : Service) (request : Request) {host : Host}
    (hhost : host.Accepting) (handle : Handle) (offersHints : Bool) (received : Bytes)
    (headers : Headers) (world : World Record)
    (hbase : ∀ base, service.settings.apiUrl = some base →
      (Bytes.ofString base).all isFieldByte = true) :
    ∃ body fields after calls links,
      (service.apply request (host.pusher (some handle))
        (if offersHints then some Host.sendHint else none) (.ok received) headers).run world =
          ((.ok body, fields), after) ∧
      after.transport.pushes = world.transport.pushes ++ calls ∧
      fields.getAll "link" = headers.getAll "link" ++ links ∧
      (∀ relation ∈ service.relations request received,
        nopush <:+ service.link relation ↔
          service.settings.maxPushes = some 0 ∨ relation.sameOrigin = false) ∧
      (service.settings.maxPushes = some 0 → calls = [] ∧
        links = ((service.relations request received).map service.link).eraseDups) ∧
      (service.settings.maxPushes ≠ some 0 →
        calls.map (·.target) = affordable (world.ledger.budgetLeft? handle.cycle)
          (((service.relations request received).filter fun relation =>
            relation.sameOrigin && !world.ledger.isPushed relation.text).map (·.text)).eraseDups ∧
        links = (((service.relations request received).filter fun relation =>
          !relation.sameOrigin || (!world.ledger.isPushed relation.text &&
            !(calls.map (·.target)).contains relation.text)).map service.link).eraseDups) := by
  obtain ⟨body, fields, progress, hrun, hlink, hspending⟩ :=
    exists_spending service request hhost handle offersHints received headers world hbase
  obtain ⟨calls, hcalls, htargets⟩ := hspending.spent.calls
  have hlinks := hspending.links
  rw [← htargets] at hlinks
  refine ⟨body, fields, progress.world, calls, progress.links, hrun, hcalls, hlink,
    fun relation _ => nopush_suffix_link, fun hdisabled => ⟨?_, ?_⟩, fun henabled => ⟨?_, ?_⟩⟩
  · rw [afforded_of_disabled hdisabled] at htargets
    exact List.map_eq_nil_iff.mp htargets
  · rw [hlinks, filter_isUnspent_of_disabled hdisabled]
  · have hfresh : service.isFresh world.ledger =
        fun relation => relation.sameOrigin && !world.ledger.isPushed relation.text := by
      funext relation
      rw [isFresh, isNeverPushed_of_enabled henabled, Bool.not_not]
    rw [htargets, afforded, freshTargets, hfresh]
  · have hunspent : service.isUnspent world.ledger (calls.map (·.target)) =
        fun relation => !relation.sameOrigin || (!world.ledger.isPushed relation.text &&
          !(calls.map (·.target)).contains relation.text) := by
      funext relation
      rw [isUnspent, isFresh, isNeverPushed_of_enabled henabled, Bool.not_not]
      cases relation.sameOrigin <;> simp
    rw [hlinks, hunspent]

/-- A host that makes every push. -/
def eager : Host where
  respond _ ledger := (.ok (), ledger)
  reentered _ ledger := .refl ledger

/-- It accepts every push. -/
theorem accepting_eager : eager.Accepting where
  respond_fst _ _ := rfl
  visited _ ledger := .refl ledger

/-- A book with reviews, some of which it has twice, and one of another origin. -/
def reviewedBook : Bytes :=
  Bytes.ofString <| "\x7b\"author\":\"/users/5\",\"reviews\":[\"/reviews/1\",\"/users/5\"," ++
    "\"http://[2001:db8::1]/ads\",\"/reviews/2\",\"/reviews/1\"]\x7d"

/-- The budget is spent on the author and the first review, so that the other review gets a link. -/
theorem budget_spent_in_order_reviewedBook : ∃ body fields after,
    (bookService.apply bookRequest (eager.pusher (some ⟨0, 0, .origin⟩)) none (.ok reviewedBook)
      ⟨[]⟩).run ⟨(Ledger.empty (some 2)).openOrigin.2, ⟨[], []⟩⟩ = ((.ok body, fields), after) ∧
    after.transport.pushes.map (·.target) = ["/users/5", "/reviews/1"] ∧
    fields.getAll "link" =
      [Bytes.ofString "<http://[2001:db8::1]/ads>; rel=preload; as=fetch; nopush",
        Bytes.ofString "<https://api.example/reviews/2>; rel=preload; as=fetch"] := by
  obtain ⟨body, fields, after, calls, links, hrun, hcalls, hlinks, -, -, hspent⟩ :=
    budget_spent_in_order bookService bookRequest accepting_eager ⟨0, 0, .origin⟩ false reviewedBook
      ⟨[]⟩ ⟨(Ledger.empty (some 2)).openOrigin.2, ⟨[], []⟩⟩ bookService_apiUrl
  obtain ⟨htargets, hunspent⟩ := hspent (by decide)
  have hpushed : calls.map (·.target) = ["/users/5", "/reviews/1"] :=
    htargets.trans (by decide +kernel)
  rw [hpushed] at hunspent
  refine ⟨body, fields, after, hrun, ?_, ?_⟩
  · rw [hcalls]
    exact hpushed
  · rw [hlinks, hunspent]
    decide +kernel

end Service

end Hypermedia
