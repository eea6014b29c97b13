import Hypermedia.Delivery
import Hypermedia.Proofs.Header
import Hypermedia.Proofs.Pruning.Requested

/-!
# The relations of a response

The strings of a document that a request asks for, and what becomes of each.

* `Service.relations` are the relations of a response in document order, each with the directives
  that it is asked for with.
* `Service.shown` is a string as it stands in the processed document.
* `Service.advance` is what the delivery of one relation changes.
* `Service.processed` is the processed document, and `Service.transform_run` puts these together: it
  does not depend on what becomes of the relations.
-/

namespace Hypermedia

open Delivery Push

/-! ## What is asked for -/

/-- The directives of a request. -/
def Request.directives (request : Request) : Directives :=
  .ofRequest request.headers request.uri

/-- The selections of a request. -/
def Request.tree (request : Request) : SelectorTree :=
  request.directives.tree

/-- The selections of a request are marked. -/
theorem Request.marked_tree (request : Request) : request.tree.root.Marked :=
  SelectorTree.marked_build _ _

/-- The strings of a body that a request asks for as relations, in document order. A body that is no
JSON has none. -/
def Request.found (request : Request) (received : Bytes) : List Found :=
  match Json.parseBytes? received with
  | none => []
  | some document => request.tree.found document

/-- Nothing is asked for without selections, and in a body that is no JSON. -/
theorem Request.found_eq_nil {request : Request} {received : Bytes}
    (h : request.tree.isEmpty = true ∨ Json.parseBytes? received = none) :
    request.found received = [] := by
  unfold found
  cases hdocument : Json.parseBytes? received with
  | none => rfl
  | some document =>
      rw [hdocument] at h
      exact SelectorTree.found_of_isEmpty request.marked_tree (h.resolve_right (by simp)) document

/-- Either nothing can be asked for in a body, or it is a document and something is asked for. -/
theorem Request.nothing_or_document (request : Request) (received : Bytes) :
    (request.tree.isEmpty = true ∨ Json.parseBytes? received = none) ∨
      request.tree.isEmpty = false ∧ ∃ document, Json.parseBytes? received = some document := by
  cases request.tree.isEmpty with
  | true => exact .inl (.inl rfl)
  | false =>
      cases Json.parseBytes? received with
      | none => exact .inl (.inr rfl)
      | some document => exact .inr ⟨rfl, document, rfl⟩

/-- The directives that a relation carries do not tell where it came from. -/
@[simp] theorem Relation.withDirectives_fromRouteLookup (relation : Relation) (node : Node) :
    (relation.withDirectives node).fromRouteLookup = relation.fromRouteLookup := by
  unfold withDirectives
  dsimp only
  split_ifs <;> rfl

namespace Service

variable (service : Service) (request : Request)

/-- Whether a relation takes the place of its string in the document. -/
def isReplaced (relation : Relation) : Bool :=
  service.replaces request.directives && !relation.fromRouteLookup

/-- The relation that a string names, if it can be resolved. One that takes the place of its string
carries the selections below its node. -/
def relation? (found : Found) : Option Relation :=
  match (Resolver.ofRequest service.routes request.uri).resolve found.node.pointer found.raw with
  | .error _ => none
  | .ok relation =>
    some (if service.isReplaced request relation then relation.withDirectives found.node
      else relation)

/-- The relations of a body, in document order. -/
def relations (received : Bytes) : List Relation :=
  (request.found received).filterMap (service.relation? request)

/-- A string that was asked for as a relation as it stands in the processed document. -/
def shown (found : Found) : Found :=
  match service.relation? request found with
  | none => if service.replaces request.directives then { found with raw := "" } else found
  | some relation =>
    if service.isReplaced request relation then { found with raw := relation.text } else found

/-- A string as it stands in the processed document, if it is at a path. -/
def shownString (path : List Json.Step) (raw : String) : String :=
  match request.tree.request? path with
  | none => raw
  | some node => (service.shown request ⟨node, raw⟩).raw

/-- The processed document: pruned, and with the strings that are asked for as they are shown. -/
def processed (document : Json) : Json :=
  (request.tree.prune document).replaceStrings (service.shownString request)

/-- The link that advertises a relation. -/
def link (relation : Relation) : Bytes :=
  Bytes.ofString (relation.preloadLink service.settings.apiUrl
    (isNeverPushed service.settings relation))

variable {service request}

/-- A string stays at its place. -/
@[simp] theorem shown_node (found : Found) : (service.shown request found).node = found.node := by
  unfold shown
  cases service.relation? request found with
  | none =>
      dsimp only
      split_ifs <;> rfl
  | some relation =>
      dsimp only
      split_ifs <;> rfl

/-- A string that names a relation is shown as the relation, if that takes its place. -/
theorem shown_raw {found : Found} {relation : Relation}
    (h : service.relation? request found = some relation) :
    (service.shown request found).raw =
      if service.isReplaced request relation then relation.text else found.raw := by
  unfold shown
  rw [h]
  dsimp only
  split_ifs <;> rfl

/-! ## What becomes of a relation -/

variable {σ : Type}

/-- What the delivery of a relation changes. -/
def advance (service : Service) (request : Request) (pusher : Option (Pusher σ))
    (progress : Progress σ) (found : Found) : Progress σ :=
  match service.relation? request found with
  | none => progress
  | some relation =>
    let headers := forwardedHeaders request.headers request.directives found.node
    let (link, world) := (deliver service.settings pusher headers relation).run progress.world
    ⟨addLink progress.links link, true, world⟩

/-- A string that is asked for is delivered, and shown as the relation that it names. -/
theorem resolved_visit_run (pusher : Option (Pusher σ)) (found : Found) (progress : Progress σ) :
    (found.resolved (service.visit request request.directives
        (Resolver.ofRequest service.routes request.uri) pusher)).run progress =
      (service.shown request found, service.advance request pusher progress found) := by
  unfold Found.resolved visit shown advance relation? isReplaced
  cases (Resolver.ofRequest service.routes request.uri).resolve found.node.pointer found.raw with
  | error error =>
      cases service.replaces request.directives <;> rfl
  | ok relation =>
      cases hreplaces : service.replaces request.directives && !relation.fromRouteLookup with
      | false =>
          simp [hreplaces]
          rfl
      | true =>
          simp [hreplaces]
          rfl

/-- The strings that are asked for are delivered in order. -/
theorem mapM_resolved_visit_run (pusher : Option (Pusher σ)) (founds : List Found)
    (progress : Progress σ) :
    (founds.mapM (Found.resolved (service.visit request request.directives
        (Resolver.ofRequest service.routes request.uri) pusher))).run progress =
      (founds.map (service.shown request),
        founds.foldl (service.advance request pusher) progress) := by
  induction founds generalizing progress with
  | nil => rfl
  | cons found rest ih =>
      rw [List.mapM_cons, StateT.run_bind, resolved_visit_run]
      simp only [StateT.run_bind, StateT.run_pure, ih]
      rfl

/-- What takes the place of a string does not depend on what has become of the relations so far. -/
theorem answer_visit_run_fst (pusher : Option (Pusher σ)) (path : List Json.Step) (raw : String)
    (progress : Progress σ) :
    ((request.tree.answer (service.visit request request.directives
        (Resolver.ofRequest service.routes request.uri) pusher) path raw).run progress).1 =
      service.shownString request path raw := by
  unfold SelectorTree.answer Pruning.answer shownString SelectorTree.request?
  cases Pruning.request? (some request.tree.root) path with
  | none => rfl
  | some node =>
      exact congrArg (fun resolved => resolved.1.raw)
        (resolved_visit_run pusher ⟨node, raw⟩ progress)

/-- The processing of a document delivers the strings that are asked for in document order. -/
theorem transform_run (service : Service) (request : Request) (pusher : Option (Pusher σ))
    (document : Json) (progress : Progress σ) :
    (transform request.tree (service.visit request request.directives
        (Resolver.ofRequest service.routes request.uri) pusher) document).run progress =
      (service.processed request document,
        (request.tree.found document).foldl (service.advance request pusher) progress) := by
  refine Prod.ext ?_ ?_
  · rw [SelectorTree.transform_eq_mapStrings]
    exact Json.mapStrings_run_fst (answer_visit_run_fst pusher) _ progress
  · have hfound := congrArg (fun walked => (walked.run progress).2)
      (SelectorTree.found_transform request.marked_tree (service.visit request request.directives
        (Resolver.ofRequest service.routes request.uri) pusher) document)
    simp only [mapM_resolved_visit_run] at hfound
    exact hfound

/-- The processed document holds the strings that are asked for as they are shown. -/
theorem found_processed (service : Service) (request : Request) (document : Json) :
    request.tree.found (service.processed request document) =
      (request.tree.found document).map (service.shown request) := by
  have hfound := congrArg (fun walked => (walked.run ⟨[], false, ()⟩).1)
    (SelectorTree.found_transform request.marked_tree (service.visit request request.directives
      (Resolver.ofRequest service.routes request.uri) none) document)
  simp only [mapM_resolved_visit_run, StateT.run_map, transform_run] at hfound
  exact hfound

/-- Where every string that is asked for is shown as it is, the document is pruned and that is
all. -/
theorem processed_eq_prune {service : Service} {request : Request} {document : Json}
    (h : ∀ found ∈ request.tree.found document, service.shown request found = found) :
    service.processed request document = request.tree.prune document := by
  refine Json.replaceStrings_eq_self _ fun entry hentry => ?_
  unfold shownString
  cases hnode : request.tree.request? entry.1 with
  | none => rfl
  | some node =>
      rw [← SelectorTree.found_prune request.marked_tree] at h
      exact congrArg Found.raw (h ⟨node, entry.2⟩ (SelectorTree.mem_found hentry hnode))

end Service

end Hypermedia
