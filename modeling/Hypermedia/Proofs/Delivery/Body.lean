import Hypermedia.Proofs.Delivery.Links
import Hypermedia.Proofs.Delivery.Responses

/-!
# The body does not depend on the delivery

What a client gets as the body of a response is the same whether relations are pushed, refused or
only advertised, and so is what the response varies by.

* `Service.bodyOf` is the body and `Service.variedOf` what the response varies by, as functions of the
  request and the received body alone; `Service.apply_body_and_varied` says so.
* `Service.processed_of_not_replaces` says that nothing but pruning happens to a document in which
  relations are not replaced.
* `Service.body_independent_of_delivery` compares two runs.
-/

namespace Hypermedia

open Delivery Push

/-! ## What a response varies by -/

/-- A response keeps what it varies by when the length of the body is set. -/
theorem getAll_vary_withLength (headers : Headers) (length : Nat) :
    (withLength headers length).getAll "vary" = headers.getAll "vary" :=
  getAll_withLength (by decide) (by decide) headers length

/-- A response varies by `preload` if a relation was resolved, and by `fields` if that directive came
from header fields. -/
theorem getAll_vary_responseHeaders (directives : Directives) (preloaded : Bool)
    (links : List Bytes) (length : Nat) (headers : Headers) :
    (Service.responseHeaders directives preloaded links length headers).getAll "vary" =
      headers.getAll "vary" ++
        ((if preloaded then [Bytes.ofString "preload"] else []) ++
          if directives.isFromHeader .fields then [Bytes.ofString "fields"] else []) := by
  have hadded : ∀ (condition : Bool) (fields : Headers) (value : Bytes),
      (if condition then fields.append "vary" value else fields).getAll "vary" =
        fields.getAll "vary" ++ if condition then [value] else [] := by
    intro condition fields value
    cases condition with
    | false => exact (List.append_nil _).symm
    | true => exact Headers.getAll_append_self fields "vary" value
  unfold Service.responseHeaders
  rw [getAll_vary_withLength, Headers.getAll_appendAll_of_ne (by decide), hadded, hadded,
    List.append_assoc]

namespace Service

variable {σ : Type}

/-! ## What is known of a response without its delivery -/

section

variable (service : Service) (request : Request)

/-- The body of a response: as it was received if nothing is asked for or if it is no JSON, otherwise
the processed document. -/
def bodyOf : Except BodyError Bytes → Except BodyError Bytes
  | .error error => .error error
  | .ok received =>
    if request.tree.isEmpty then .ok received
    else
      match Json.parseBytes? received with
      | none => .ok received
      | some document => .ok (service.processed request document).renderBytes

/-- What a response varies by: `preload` if it has a relation, and `fields` if that directive came
from header fields. -/
def variedOf : Except BodyError Bytes → List Bytes
  | .error _ => []
  | .ok received =>
    if request.tree.isEmpty then []
    else
      match Json.parseBytes? received with
      | none => []
      | some document =>
        (if (request.tree.found document).any (service.relation? request · |>.isSome) then
          [Bytes.ofString "preload"] else []) ++
          if request.directives.isFromHeader .fields then [Bytes.ofString "fields"] else []

end

variable {service : Service} {request : Request}

/-- Some relation was resolved if one of the strings that are asked for names a relation. -/
theorem preloaded_foldl_advance (pusher : Option (Pusher σ)) (founds : List Found)
    (progress : Progress σ) :
    (founds.foldl (service.advance request pusher) progress).preloaded =
      (progress.preloaded || founds.any (service.relation? request · |>.isSome)) := by
  induction founds generalizing progress with
  | nil => exact (Bool.or_false _).symm
  | cons found rest ih =>
      rw [List.foldl_cons, ih, List.any_cons, ← Bool.or_assoc]
      unfold advance
      cases service.relation? request found with
      | none => rw [Option.isSome_none, Bool.or_false]
      | some relation =>
          rw [Option.isSome_some, Bool.or_true]
          rfl

/-- The body and what the response varies by, whatever the pusher and the hints do. -/
theorem apply_body_and_varied (service : Service) (request : Request)
    (pusher : Option (Pusher σ)) (hint : Option (List Bytes → StateM σ Unit))
    (body : Except BodyError Bytes) (headers : Headers) (world : σ) :
    ((service.apply request pusher hint body headers).run world).1.1 =
        service.bodyOf request body ∧
      ((service.apply request pusher hint body headers).run world).1.2.getAll "vary" =
        headers.getAll "vary" ++ service.variedOf request body := by
  cases body with
  | error error => exact ⟨rfl, (List.append_nil _).symm⟩
  | ok received =>
      unfold bodyOf variedOf
      dsimp only
      cases hempty : request.tree.isEmpty with
      | true =>
          rw [apply_run_of_unchanged pusher hint headers world (.inl hempty)]
          exact ⟨rfl, by rw [getAll_vary_withLength, if_pos rfl, List.append_nil]⟩
      | false =>
          cases hdocument : Json.parseBytes? received with
          | none =>
              rw [apply_run_of_unchanged pusher hint headers world (.inr hdocument)]
              exact ⟨rfl, by rw [getAll_vary_withLength, if_neg Bool.false_ne_true, List.append_nil]⟩
          | some document =>
              rw [apply_run_of_processed service pusher hint headers world hempty hdocument]
              refine ⟨rfl, ?_⟩
              rw [getAll_vary_responseHeaders, preloaded_foldl_advance, Bool.false_or]
              rfl

/-! ## Where relations are not replaced -/

/-- Where relations are not replaced, every string is shown as it is. -/
theorem shown_of_not_replaces (h : service.replaces request.directives = false) (found : Found) :
    service.shown request found = found := by
  unfold shown isReplaced
  rw [h]
  cases service.relation? request found <;> rfl

/-- Where relations are not replaced, the document is pruned and that is all. -/
theorem processed_of_not_replaces (h : service.replaces request.directives = false)
    (document : Json) : service.processed request document = request.tree.prune document :=
  processed_eq_prune fun found _ => shown_of_not_replaces h found

/-- Relations are not replaced under the policy `never`, and under the policy `query` without a
directive that came from the query. -/
theorem replaces_eq_false {directives : Directives}
    (h : service.settings.replacementPolicy = .never ∨
      service.settings.replacementPolicy = .query ∧ directives.anyFromQuery = false) :
    service.replaces directives = false := by
  unfold replaces
  rcases h with hnever | ⟨hquery, hnone⟩
  · rw [hnever]
    rfl
  · rw [hquery, hnone]
    rfl

/-! ## Two runs -/

/-- **The body does not depend on how relations are delivered.** Two runs for one request and one
received body give the same body and append the same values of `vary`, whatever the pushers (or none),
the states of the connections, the answers to pushes, the header fields of the responses and the hints
(or none) are. Under the policy `never`, and under the policy `query` without a directive that came
from the query, the body for a JSON document and a tree with pointers is the pruned document, whatever
the relations resolve to. -/
theorem body_independent_of_delivery {τ : Type} (service : Service) (request : Request)
    (body : Except BodyError Bytes)
    (pusher : Option (Pusher σ)) (hint : Option (List Bytes → StateM σ Unit))
    (headers : Headers) (world : σ)
    (pusher' : Option (Pusher τ)) (hint' : Option (List Bytes → StateM τ Unit))
    (headers' : Headers) (world' : τ) :
    ((service.apply request pusher hint body headers).run world).1.1 =
        ((service.apply request pusher' hint' body headers').run world').1.1 ∧
      (∃ varied,
        ((service.apply request pusher hint body headers).run world).1.2.getAll "vary" =
          headers.getAll "vary" ++ varied ∧
        ((service.apply request pusher' hint' body headers').run world').1.2.getAll "vary" =
          headers'.getAll "vary" ++ varied) ∧
      ∀ received document, body = .ok received → request.tree.isEmpty = false →
        Json.parseBytes? received = some document →
        (service.settings.replacementPolicy = .never ∨
          service.settings.replacementPolicy = .query ∧
            request.directives.anyFromQuery = false) →
        ((service.apply request pusher hint body headers).run world).1.1 =
          .ok (request.tree.prune document).renderBytes := by
  obtain ⟨hbody, hvaried⟩ := apply_body_and_varied service request pusher hint body headers world
  obtain ⟨hbody', hvaried'⟩ :=
    apply_body_and_varied service request pusher' hint' body headers' world'
  refine ⟨hbody.trans hbody'.symm, ⟨_, hvaried, hvaried'⟩, ?_⟩
  rintro received document rfl hempty hdocument hpolicy
  rw [hbody]
  unfold bodyOf
  simp only [hempty, Bool.false_eq_true, if_false, hdocument]
  rw [processed_of_not_replaces (replaces_eq_false hpolicy)]

end Service

end Hypermedia
