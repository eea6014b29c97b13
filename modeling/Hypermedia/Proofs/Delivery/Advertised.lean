import Hypermedia.Proofs.Delivery.Links
import Hypermedia.Proofs.Delivery.Responses

/-!
# Responses without pushes

On a connection that can neither push nor send links ahead, every relation that was resolved is
advertised by its link, unless that link cannot stand in a header field.

* `Service.Advertised` is what holds of the links when some relations have been delivered.
* `Service.apply_run_of_none` is what holds when a response was processed.
-/

namespace Hypermedia

open Delivery Push

variable {σ : Type}

namespace Service

variable {service : Service} {request : Request}

/-- Links that advertise some relations. -/
structure Advertised (service : Service) (relations : List Relation) (links : List Bytes) :
    Prop where
  /-- They are pairwise distinct. -/
  nodup : links.Nodup
  /-- They are the links of the relations that have one. -/
  mem_iff : ∀ link, link ∈ links ↔ ∃ relation ∈ relations,
    linkOf? service.settings relation = some link

/-- There are no links without relations. -/
theorem Advertised.nil : service.Advertised [] [] :=
  ⟨.nil, fun _ => by simp⟩

/-- One more relation gets its link. -/
theorem Advertised.concat {relations : List Relation} {links : List Bytes}
    (h : service.Advertised relations links) (relation : Relation) :
    service.Advertised (relations ++ [relation])
      (addLink links (linkOf? service.settings relation)) := by
  refine ⟨nodup_addLink h.nodup _, fun link => ?_⟩
  rw [mem_addLink, h.mem_iff]
  simp only [List.mem_append, List.mem_singleton, or_and_right, exists_or, exists_eq_left]

/-- Strings that are asked for get the links of the relations that they name. -/
theorem advertised_foldl_advance (service : Service) (request : Request) (founds : List Found)
    (world : σ) :
    service.Advertised (founds.filterMap (service.relation? request))
      (founds.foldl (service.advance request none) ⟨[], false, world⟩).links := by
  refine foldl_advance_of_deliver service request none
    (P := fun relations progress => service.Advertised relations progress.links) .nil founds ?_
  intro found _ relation _ relations progress h
  rw [deliver_run_of_none]
  exact h.concat relation

/-- What becomes of a response on a connection that can neither push nor send links ahead: the
connection stays as it is, and the links that are added are those of the relations. -/
theorem apply_run_of_none (service : Service) (request : Request) (received : Bytes)
    (headers : Headers) (world : σ) :
    ∃ body fields links,
      (service.apply request none none (.ok received) headers).run world =
        ((.ok body, fields), world) ∧
      fields.getAll "link" = headers.getAll "link" ++ links ∧
      service.Advertised (service.relations request received) links := by
  rcases request.nothing_or_document received with hunchanged | ⟨hempty, document, hdocument⟩
  · refine ⟨_, _, [], apply_run_of_unchanged none none headers world hunchanged, ?_, ?_⟩
    · rw [getAll_link_withLength, List.append_nil]
    · unfold relations
      rw [Request.found_eq_nil hunchanged]
      exact .nil
  · have hworld := service.apply_run_snd_of_none request (.ok received) headers world
    have hlinks := advertised_foldl_advance service request (request.tree.found document) world
    have hrun := apply_run_of_processed service none none headers world hempty hdocument
    rw [hrun] at hworld
    refine ⟨_, _, _, hrun.trans (congrArg (Prod.mk _) hworld),
      getAll_link_responseHeaders _ _ _ _ _, ?_⟩
    unfold relations Request.found
    rw [hdocument]
    exact hlinks

/-- A relation of a response is advertised, unless the base URL of the API comes before it and may
not stand in a header field. -/
theorem Advertised.link_mem_iff {received : Bytes} {links : List Bytes}
    (h : service.Advertised (service.relations request received) links) {relation : Relation}
    (hrelation : relation ∈ service.relations request received) :
    service.link relation ∈ links ↔
      relation.sameOrigin = false ∨ ∀ base, service.settings.apiUrl = some base →
        (Bytes.ofString base).all isFieldByte = true := by
  obtain ⟨found, -, hfound⟩ := List.mem_filterMap.mp hrelation
  rw [h.mem_iff, ← all_link_iff (isPrintable_text_of_relation? hfound)]
  constructor
  · rintro ⟨other, -, hother⟩
    rw [linkOf?_eq] at hother
    split_ifs at hother with hall
    exact Option.some.inj hother ▸ hall
  · intro hall
    exact ⟨relation, hrelation, by rw [linkOf?_eq, if_pos hall]⟩

end Service

end Hypermedia
