import Mathlib.Data.List.Forall2
import Hypermedia.Proofs.Delivery.Links
import Hypermedia.Proofs.Delivery.Responses
import Hypermedia.Proofs.Push.Host
import Hypermedia.Proofs.Relation

/-!
# No relation is lost

Every relation of a response is pushed or advertised by a link, whatever the host answers.

* `Delivered` is what holds when some relations of a response have been delivered.
* `Service.no_relation_lost` is what holds when a response was processed.
-/

namespace Hypermedia

open Delivery Push

/-! ## One relation -/

/-- What the delivery of a relation does. The relation gets its link, or it was pushed before or
now; and the host is asked for nothing but a push of it, if that is possible. -/
theorem deliver_spec (settings : Settings) (host : Host) (handle : Option Handle)
    (headers : Headers) (relation : Relation) (world : World Record) {link : Option Bytes}
    {after : World Record}
    (h : (deliver settings (host.pusher handle) headers relation).run world = (link, after)) :
    world.ledger.pushed ⊆ after.ledger.pushed ∧
    (link = linkOf? settings relation ∨
      link = none ∧ handle ≠ none ∧ relation.text ∈ after.ledger.pushed) ∧
    ∃ calls, after.transport.pushes = world.transport.pushes ++ calls ∧
      ∀ call ∈ calls, isNeverPushed settings relation = false ∧ ∃ opened, handle = some opened ∧
        call = ⟨relation.text, withCorrelation opened.cycle headers⟩ := by
  cases hnever : isNeverPushed settings relation with
  | true =>
      rw [deliver_run_of_isNeverPushed hnever] at h
      obtain ⟨rfl, rfl⟩ := Prod.mk.inj h
      exact ⟨List.Subset.refl _, .inl rfl, [], (List.append_nil _).symm, by simp⟩
  | false =>
      cases handle with
      | none =>
          rw [Host.pusher, Option.map_none, deliver_run_of_none] at h
          obtain ⟨rfl, rfl⟩ := Prod.mk.inj h
          exact ⟨List.Subset.refl _, .inl rfl, [], (List.append_nil _).symm, by simp⟩
      | some handle =>
          rw [Host.pusher, Option.map_some, deliver_run_of_pusher hnever] at h
          generalize hpush : (push host.transport handle.cycle relation.text headers).run world =
            outcome at h
          obtain ⟨answer, pushed⟩ := outcome
          obtain ⟨hlink, rfl⟩ := Prod.mk.inj h
          obtain ⟨hsubset, hkept, calls, hcalls, hcall⟩ := host.push_spec _ _ _ _ hpush
          refine ⟨hsubset, ?_, calls, hcalls, fun call hmem => ⟨rfl, handle, rfl, hcall call hmem⟩⟩
          split_ifs at hlink with hanswer
          · exact .inr ⟨hlink.symm, by simp, hkept hanswer⟩
          · exact .inl hlink.symm

/-! ## Some relations -/

/-- What holds when some relations of a response have been delivered, since a state before. -/
structure Delivered (service : Service) (handle : Option Handle) (before : World Record)
    (relations : List Relation) (progress : Progress (World Record)) : Prop where
  /-- Each is on the ledger or has its link. -/
  pushed_or_linked : ∀ relation ∈ relations,
    relation.text ∈ progress.world.ledger.pushed ∨ service.link relation ∈ progress.links
  /-- Without a handle each has its link. -/
  linked_of_none : handle = none → ∀ relation ∈ relations, service.link relation ∈ progress.links
  /-- The links are without repetitions. -/
  nodup : progress.links.Nodup
  /-- Each link is that of a relation. -/
  of_mem_links : ∀ link ∈ progress.links, ∃ relation ∈ relations, link = service.link relation
  /-- The host was asked for nothing but pushes of relations that may be pushed. -/
  calls : ∃ calls, progress.world.transport.pushes = before.transport.pushes ++ calls ∧
    ∀ call ∈ calls, handle ≠ none ∧ ∃ relation ∈ relations,
      call.target = relation.text ∧ isNeverPushed service.settings relation = false

namespace Delivered

variable {service : Service} {request : Request} {host : Host} {handle : Option Handle}
  {before : World Record} {relations : List Relation} {progress : Progress (World Record)}

/-- Nothing has been delivered. -/
theorem nil (preloaded : Bool) : Delivered service handle before [] ⟨[], preloaded, before⟩ where
  pushed_or_linked := by simp
  linked_of_none := by simp
  nodup := .nil
  of_mem_links := by simp
  calls := ⟨[], (List.append_nil _).symm, by simp⟩

/-- One more relation is delivered. -/
theorem append_singleton (h : Delivered service handle before relations progress)
    {relation : Relation}
    (hlink : linkOf? service.settings relation = some (service.link relation))
    {headers : Headers} {link : Option Bytes} {after : World Record} (preloaded : Bool)
    (hdeliver : (deliver service.settings (host.pusher handle) headers relation).run
      progress.world = (link, after)) :
    Delivered service handle before (relations ++ [relation])
      ⟨addLink progress.links link, preloaded, after⟩ := by
  obtain ⟨hsubset, hcase, calls, hcalls, hallowed⟩ := deliver_spec _ _ _ _ _ _ hdeliver
  rw [hlink] at hcase
  have hkeep : ∀ other ∈ progress.links, other ∈ addLink progress.links link :=
    fun other hother => mem_addLink.mpr (.inl hother)
  have hnew : link = some (service.link relation) →
      service.link relation ∈ addLink progress.links link :=
    fun hsome => mem_addLink.mpr (.inr hsome)
  refine ⟨?_, ?_, nodup_addLink h.nodup link, ?_, ?_⟩
  · intro other hother
    rcases List.mem_append.mp hother with hold | hlast
    · exact (h.pushed_or_linked other hold).imp (hsubset ·) (hkeep _ ·)
    · obtain rfl := List.mem_singleton.mp hlast
      exact hcase.elim (fun hsome => .inr (hnew hsome)) fun hpushed => .inl hpushed.2.2
  · intro hnone other hother
    rcases List.mem_append.mp hother with hold | hlast
    · exact hkeep _ (h.linked_of_none hnone other hold)
    · obtain rfl := List.mem_singleton.mp hlast
      exact hcase.elim hnew fun hpushed => absurd hnone hpushed.2.1
  · intro other hother
    rcases mem_addLink.mp hother with hold | hsome
    · obtain ⟨found, hfound, hof⟩ := h.of_mem_links other hold
      exact ⟨found, List.mem_append_left _ hfound, hof⟩
    · refine ⟨relation, List.mem_append_right _ (List.mem_singleton_self _), ?_⟩
      rcases hcase with hlinked | ⟨hnone, -⟩
      · exact Option.some.inj (hsome.symm.trans hlinked)
      · rw [hnone] at hsome
        cases hsome
  · obtain ⟨earlier, hearlier, hof⟩ := h.calls
    refine ⟨earlier ++ calls, by rw [hcalls, hearlier, List.append_assoc], fun call hcall => ?_⟩
    rcases List.mem_append.mp hcall with hold | hlast
    · obtain ⟨hhandle, found, hfound, hrest⟩ := hof call hold
      exact ⟨hhandle, found, List.mem_append_left _ hfound, hrest⟩
    · obtain ⟨hpush, opened, rfl, rfl⟩ := hallowed call hlast
      exact ⟨by simp, relation, List.mem_append_right _ (List.mem_singleton_self _), rfl, hpush⟩

/-- All strings are delivered, in order. -/
theorem foldl_advance (service : Service) (request : Request) (host : Host)
    (handle : Option Handle) (before : World Record) (founds : List Found)
    (hlink : ∀ found ∈ founds, ∀ relation, service.relation? request found = some relation →
      linkOf? service.settings relation = some (service.link relation)) :
    Delivered service handle before (founds.filterMap (service.relation? request))
      (founds.foldl (service.advance request (host.pusher handle)) ⟨[], false, before⟩) :=
  Service.foldl_advance_of_deliver service request _ (.nil false) founds
    fun found hfound relation hrelation _ _ h =>
      h.append_singleton (hlink found hfound relation hrelation) true rfl

end Delivered

/-! ## Whole responses -/

namespace Service

variable {service : Service} {request : Request}

/-- Sending links ahead neither changes the ledger nor asks the host for a push. -/
theorem hinted_sendHint (service : Service) (offersHints : Bool) (added links : List Bytes)
    (world : World Record) :
    let hint := if offersHints then some Host.sendHint else none
    (service.hinted hint added links world).ledger = world.ledger ∧
      (service.hinted hint added links world).transport.pushes = world.transport.pushes := by
  refine hinted_preserves service (P := fun after : World Record =>
    after.ledger = world.ledger ∧ after.transport.pushes = world.transport.pushes) ?_ added links
    ⟨rfl, rfl⟩
  intro send hsend sent after hafter
  cases offersHints with
  | false => cases hsend
  | true =>
      obtain rfl := Option.some.inj hsend
      exact hafter

/-- **No relation is lost between pushes and links.** When a response was processed, each relation of
it is on the ledger or has its link among those that were added; without a handle each has its link.
The links that were added are pairwise distinct, and each is that of a relation. A link tells the
client not to wait exactly if pushing is disabled or the relation has another origin. The transport
was called for relations of the same origin only, and only with a handle and with pushing enabled.
Where a relation takes the place of its string, the document holds the relation as it was pushed or
advertised. -/
theorem no_relation_lost (service : Service) (request : Request) (host : Host)
    (handle : Option Handle) (offersHints : Bool) (received : Bytes) (headers : Headers)
    (world : World Record)
    (hbase : ∀ base, service.settings.apiUrl = some base →
      (Bytes.ofString base).all isFieldByte = true) :
    ∃ body fields after links calls,
      (service.apply request (host.pusher handle) (if offersHints then some Host.sendHint else none)
        (.ok received) headers).run world = ((.ok body, fields), after) ∧
      fields.getAll "link" = headers.getAll "link" ++ links ∧
      after.transport.pushes = world.transport.pushes ++ calls ∧
      (∀ relation ∈ service.relations request received,
        relation.text ∈ after.ledger.pushed ∨ service.link relation ∈ links) ∧
      (handle = none → ∀ relation ∈ service.relations request received,
        service.link relation ∈ links) ∧
      links.Nodup ∧
      (∀ link ∈ links, ∃ relation ∈ service.relations request received,
        link = service.link relation) ∧
      (∀ relation ∈ service.relations request received,
        nopush <:+ service.link relation ↔
          service.settings.maxPushes = some 0 ∨ relation.sameOrigin = false) ∧
      (∀ call ∈ calls, handle ≠ none ∧ service.settings.maxPushes ≠ some 0 ∧
        ∃ relation ∈ service.relations request received,
          relation.sameOrigin = true ∧ call.target = relation.text) ∧
      ∀ document, request.tree.isEmpty = false → Json.parseBytes? received = some document →
        ∃ transformed, body = transformed.renderBytes ∧
          List.Forall₂ (fun found shown => shown.node = found.node ∧
              ∀ relation, service.relation? request found = some relation →
                shown.raw = if service.isReplaced request relation then relation.text else found.raw)
            (request.tree.found document) (request.tree.found transformed) := by
  have hlink : ∀ relation ∈ service.relations request received,
      linkOf? service.settings relation = some (service.link relation) := by
    intro relation hrelation
    obtain ⟨found, -, hfound⟩ := List.mem_filterMap.mp hrelation
    exact linkOf?_eq_some hbase (isPrintable_text_of_relation? hfound)
  rcases request.nothing_or_document received with hunchanged | ⟨hempty, document, hdocument⟩
  · -- Nothing is asked for, so there are no relations.
    have hnone : service.relations request received = [] := by
      unfold relations
      rw [Request.found_eq_nil hunchanged]
      rfl
    refine ⟨_, _, _, [], [], apply_run_of_unchanged _ _ headers world hunchanged, ?_,
      (List.append_nil _).symm, ?_, ?_, .nil, by simp, fun relation _ => nopush_suffix_link,
      by simp, ?_⟩
    · rw [getAll_link_withLength, List.append_nil]
    · simp [hnone]
    · simp [hnone]
    · intro document hempty hdocument
      rcases hunchanged with hempty' | hdocument'
      · rw [hempty] at hempty'
        cases hempty'
      · rw [hdocument] at hdocument'
        cases hdocument'
  · obtain ⟨transformed, hshown, hrun⟩ := apply_run_of_document service (host.pusher handle)
      (if offersHints then some Host.sendHint else none) headers world hempty hdocument
    have hrelations : service.relations request received =
        (request.tree.found document).filterMap (service.relation? request) := by
      unfold relations Request.found
      rw [hdocument]
    have hdelivered := Delivered.foldl_advance service request host handle world
      (request.tree.found document) fun found hfound relation hrelation =>
        hlink relation (hrelations ▸ List.mem_filterMap.mpr ⟨found, hfound, hrelation⟩)
    rw [← hrelations] at hdelivered
    generalize (request.tree.found document).foldl (service.advance request (host.pusher handle))
      ⟨[], false, world⟩ = progress at hdelivered hrun
    obtain ⟨calls, hcalls, hallowed⟩ := hdelivered.calls
    obtain ⟨hledger, hpushes⟩ := service.hinted_sendHint offersHints progress.links _ progress.world
    refine ⟨_, _, _, progress.links, calls, hrun, getAll_link_responseHeaders _ _ _ _ _,
      hpushes.trans hcalls, ?_, hdelivered.linked_of_none, hdelivered.nodup,
      hdelivered.of_mem_links, fun relation _ => nopush_suffix_link, fun call hcall => ?_,
      fun other _ hother => ?_⟩
    · rw [hledger]
      exact hdelivered.pushed_or_linked
    · obtain ⟨hhandle, relation, hrelation, htarget, hpush⟩ := hallowed call hcall
      rw [Bool.eq_false_iff, ne_eq, isNeverPushed_iff, not_or, Bool.not_eq_false] at hpush
      exact ⟨hhandle, hpush.1, relation, hrelation, hpush.2, htarget⟩
    · obtain rfl := Option.some.inj (hdocument.symm.trans hother)
      refine ⟨transformed, rfl, ?_⟩
      rw [hshown, List.forall₂_map_right_iff, List.forall₂_same]
      exact fun found _ => ⟨shown_node found, fun relation hrelation => shown_raw hrelation⟩

/-- A host that makes pushes of one target and refuses all others. -/
def picky : Host where
  respond pushes ledger :=
    (if pushes.getLast?.any (·.target = "/users/5") then .ok ()
      else .error (.transport "refused stream"), ledger)
  reentered _ ledger := .refl ledger

/-- A request for a book with its author and its reviews. -/
def bookRequest : Request :=
  ⟨⟨none, none, "/books/1", some "preload=%22%2Fauthor%22%2C%20%22%2Freviews%2F%2A%22"⟩, ⟨[]⟩⟩

/-- The book. -/
def book : Bytes :=
  Bytes.ofString "\x7b\"author\":\"/users/5\",\"reviews\":[\"/reviews/1\"]\x7d"

/-- An API with a base URL. -/
def bookService : Service :=
  ⟨{ apiUrl := some "https://api.example/" }, none⟩

/-- Its base URL may stand in a header field. -/
theorem bookService_apiUrl : ∀ base, bookService.settings.apiUrl = some base →
    (Bytes.ofString base).all isFieldByte = true := by
  intro base hsome
  obtain rfl := Option.some.inj hsome
  decide

/-- The author and the review of a book are pushed or advertised where the host refuses the review. -/
theorem no_relation_lost_book :
    (bookService.relations bookRequest book).map (·.text) = ["/users/5", "/reviews/1"] ∧
    ∃ body fields after links,
      (bookService.apply bookRequest (picky.pusher (some ⟨0, 0, .origin⟩)) none (.ok book)
        ⟨[]⟩).run ⟨.empty none, ⟨[], []⟩⟩ = ((.ok body, fields), after) ∧
      fields.getAll "link" = links ∧ links.Nodup ∧
      ∀ relation ∈ bookService.relations bookRequest book,
        relation.text ∈ after.ledger.pushed ∨ bookService.link relation ∈ links := by
  obtain ⟨body, fields, after, links, calls, hrun, hlinks, -, hlost, -, hnodup, -⟩ :=
    no_relation_lost bookService bookRequest picky (some ⟨0, 0, .origin⟩) false book ⟨[]⟩
      ⟨.empty none, ⟨[], []⟩⟩ bookService_apiUrl
  exact ⟨by decide +kernel, body, fields, after, links, hrun, hlinks, hnodup, hlost⟩

end Service

end Hypermedia
