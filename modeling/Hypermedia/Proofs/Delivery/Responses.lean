import Mathlib.Data.List.Induction
import Hypermedia.Proofs.Delivery.Relations
import Hypermedia.Proofs.Push.Ledger

/-!
# Processed responses

What processing a response makes of it, for any pusher.

* `Service.apply_run_of_unchanged` and `Service.apply_run_of_processed` are the two outcomes for a body
  that could be read; `Service.hinted` is what sending links ahead does to the connection.
* `Service.apply_preserves` says that pushes and hints are all that happens to the connection.
-/

namespace Hypermedia

open Delivery Push

variable {σ : Type}

/-- A relation that may be pushed is, and gets its link unless it counts as pushed. -/
theorem deliver_run_of_pusher {settings : Settings} {relation : Relation}
    (hpush : isNeverPushed settings relation = false) (push : Pusher σ) (headers : Headers)
    (world : σ) :
    (deliver settings (some push) headers relation).run world =
      let (answer, after) := (push relation.text headers).run world
      (if answer.isKept then none else linkOf? settings relation, after) := by
  unfold deliver
  simp only [hpush, Bool.false_eq_true, if_false, StateT.run_bind]
  rcases (push relation.text headers).run world with ⟨error | made, after⟩
  · cases error <;> rfl
  · rfl

/-- A relation that may not be pushed gets its link, and nothing else happens. -/
theorem deliver_run_of_isNeverPushed {settings : Settings} {relation : Relation}
    (hnever : isNeverPushed settings relation = true) (pusher : Option (Pusher σ))
    (headers : Headers) (world : σ) :
    (deliver settings pusher headers relation).run world = (linkOf? settings relation, world) := by
  unfold deliver
  rw [hnever]
  rfl

/-- Without a pusher a relation gets its link, and nothing else happens. -/
theorem deliver_run_of_none (settings : Settings) (headers : Headers) (relation : Relation)
    (world : σ) :
    (deliver settings none headers relation).run world = (linkOf? settings relation, world) := by
  unfold deliver
  cases isNeverPushed settings relation <;> rfl

/-- What pushes preserve, the delivery of a relation preserves. -/
theorem deliver_preserves {P : σ → Prop} {pusher : Option (Pusher σ)}
    (hpush : ∀ push ∈ pusher, ∀ target headers world,
      P world → P ((push target headers).run world).2)
    (settings : Settings) (headers : Headers) (relation : Relation) {world : σ} (h : P world) :
    P ((deliver settings pusher headers relation).run world).2 := by
  cases hnever : isNeverPushed settings relation with
  | true =>
      rw [deliver_run_of_isNeverPushed hnever]
      exact h
  | false =>
      cases pusher with
      | none =>
          rw [deliver_run_of_none]
          exact h
      | some push =>
          rw [deliver_run_of_pusher hnever]
          exact hpush push rfl relation.text headers world h

namespace Service

variable {service : Service} {request : Request}

/-- What holds of the relations delivered so far, if the delivery of one more relation keeps it. -/
theorem foldl_advance_of_deliver (service : Service) (request : Request)
    (pusher : Option (Pusher σ)) {P : List Relation → Progress σ → Prop} {start : Progress σ}
    (hstart : P [] start) (founds : List Found)
    (hdeliver : ∀ found ∈ founds, ∀ relation, service.relation? request found = some relation →
      ∀ relations progress, P relations progress →
        let outcome := (deliver service.settings pusher
          (forwardedHeaders request.headers request.directives found.node) relation).run
            progress.world
        P (relations ++ [relation]) ⟨addLink progress.links outcome.1, true, outcome.2⟩) :
    P (founds.filterMap (service.relation? request))
      (founds.foldl (service.advance request pusher) start) := by
  induction founds using List.reverseRecOn with
  | nil => exact hstart
  | append_singleton founds found ih =>
      have hearlier := ih fun other hother => hdeliver other (List.mem_append_left _ hother)
      have hlast := hdeliver found (List.mem_append_right _ (List.mem_singleton_self _))
      rw [List.foldl_append, List.foldl_cons, List.foldl_nil, List.filterMap_append]
      unfold advance
      cases hrelation : service.relation? request found with
      | none =>
          rw [List.filterMap_cons_none hrelation, List.filterMap_nil, List.append_nil]
          exact hearlier
      | some relation =>
          rw [List.filterMap_cons_some hrelation, List.filterMap_nil]
          exact hlast relation hrelation _ _ hearlier

/-- What pushes preserve, the delivery of the relations of a response preserves. -/
theorem foldl_advance_preserves (service : Service) (request : Request) {P : σ → Prop}
    {pusher : Option (Pusher σ)}
    (hpush : ∀ push ∈ pusher, ∀ target headers world,
      P world → P ((push target headers).run world).2)
    (founds : List Found) (progress : Progress σ) (h : P progress.world) :
    P (founds.foldl (service.advance request pusher) progress).world :=
  foldl_advance_of_deliver service request pusher (P := fun _ after => P after.world) h founds
    fun _ _ relation _ _ _ hafter => deliver_preserves hpush service.settings _ relation hafter

/-- A body stays as it is if nothing is asked for or if it is no JSON. -/
theorem apply_run_of_unchanged (pusher : Option (Pusher σ))
    (hint : Option (List Bytes → StateM σ Unit)) {received : Bytes} (headers : Headers) (world : σ)
    (h : request.tree.isEmpty = true ∨ Json.parseBytes? received = none) :
    (service.apply request pusher hint (.ok received) headers).run world =
      ((.ok received, withLength headers received.length), world) := by
  unfold Request.tree Request.directives at h
  unfold apply
  dsimp only
  by_cases hempty : (Directives.ofRequest request.headers request.uri).tree.isEmpty = true
  · rw [if_pos hempty]
    rfl
  · rw [if_neg hempty, h.resolve_left hempty]
    rfl

/-- The state of the connection when links may have been sent ahead of a response. -/
def hinted (service : Service) (hint : Option (List Bytes → StateM σ Unit))
    (added links : List Bytes) (world : σ) : σ :=
  match hint with
  | none => world
  | some send =>
    if service.settings.earlyHints && !added.isEmpty then ((send links).run world).2 else world

/-- What hints preserve. -/
theorem hinted_preserves (service : Service) {P : σ → Prop}
    {hint : Option (List Bytes → StateM σ Unit)}
    (hhint : ∀ send ∈ hint, ∀ links world, P world → P ((send links).run world).2)
    (added links : List Bytes) {world : σ} (h : P world) :
    P (service.hinted hint added links world) := by
  unfold hinted
  cases hint with
  | none => exact h
  | some send =>
      dsimp only
      split_ifs
      · exact hhint send rfl links world h
      · exact h

/-- The response to a request that asks for something in a document. -/
theorem apply_run_of_processed (service : Service) {request : Request}
    (pusher : Option (Pusher σ)) (hint : Option (List Bytes → StateM σ Unit)) {received : Bytes}
    (headers : Headers) (world : σ) {document : Json} (hempty : request.tree.isEmpty = false)
    (hdocument : Json.parseBytes? received = some document) :
    let progress :=
      (request.tree.found document).foldl (service.advance request pusher) ⟨[], false, world⟩
    let body := (service.processed request document).renderBytes
    let fields := responseHeaders request.directives progress.preloaded progress.links body.length
      headers
    (service.apply request pusher hint (.ok received) headers).run world =
      ((.ok body, fields),
        service.hinted hint progress.links (fields.getAll "link") progress.world) := by
  have hrun := transform_run service request pusher document ⟨[], false, world⟩
  unfold Request.tree Request.directives at *
  unfold apply hinted
  simp only [hempty, Bool.false_eq_true, if_false, hdocument, StateT.run_bind, StateT.run_get]
  simp only [pure_bind, hrun]
  cases hint with
  | none => rfl
  | some send =>
      dsimp only
      split_ifs
      · rfl
      · rfl

/-- The same, with what the document of the response shows of the strings that are asked for. -/
theorem apply_run_of_document (service : Service) {request : Request}
    (pusher : Option (Pusher σ)) (hint : Option (List Bytes → StateM σ Unit)) {received : Bytes}
    (headers : Headers) (world : σ) {document : Json} (hempty : request.tree.isEmpty = false)
    (hdocument : Json.parseBytes? received = some document) :
    ∃ transformed, request.tree.found transformed =
        (request.tree.found document).map (service.shown request) ∧
      let progress :=
        (request.tree.found document).foldl (service.advance request pusher) ⟨[], false, world⟩
      let fields := responseHeaders request.directives progress.preloaded progress.links
        transformed.renderBytes.length headers
      (service.apply request pusher hint (.ok received) headers).run world =
        ((.ok transformed.renderBytes, fields),
          service.hinted hint progress.links (fields.getAll "link") progress.world) :=
  ⟨service.processed request document, found_processed service request document,
    apply_run_of_processed service pusher hint headers world hempty hdocument⟩

/-- What pushes and hints preserve, processing a response preserves. -/
theorem apply_preserves (service : Service) (request : Request) {P : σ → Prop}
    {pusher : Option (Pusher σ)} {hint : Option (List Bytes → StateM σ Unit)}
    (hpush : ∀ push ∈ pusher, ∀ target headers world,
      P world → P ((push target headers).run world).2)
    (hhint : ∀ send ∈ hint, ∀ links world, P world → P ((send links).run world).2)
    (body : Except BodyError Bytes) (headers : Headers) {world : σ} (h : P world) :
    P ((service.apply request pusher hint body headers).run world).2 := by
  cases body with
  | error error => exact h
  | ok received =>
      rcases request.nothing_or_document received with hunchanged | ⟨hempty, document, hdocument⟩
      · rw [apply_run_of_unchanged pusher hint headers world hunchanged]
        exact h
      · rw [apply_run_of_processed service pusher hint headers world hempty hdocument]
        exact hinted_preserves service hhint _ _
          (foldl_advance_preserves service request hpush _ ⟨[], false, world⟩ h)

/-- Without a pusher and without hints nothing happens to the connection. -/
theorem apply_run_snd_of_none (service : Service) (request : Request)
    (body : Except BodyError Bytes) (headers : Headers) (world : σ) :
    ((service.apply request none none body headers).run world).2 = world :=
  apply_preserves service request (P := (· = world))
    (fun push hpush => absurd hpush (Option.not_mem_none push))
    (fun send hsend => absurd hsend (Option.not_mem_none send)) body headers rfl

end Service

end Hypermedia
