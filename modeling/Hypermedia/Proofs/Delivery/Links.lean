import Hypermedia.Proofs.Delivery.Relations
import Hypermedia.Proofs.Relation

/-!
# Links

* `Service.all_link_iff` says when the link of a relation can stand in a header field, and
  `Service.linkOf?_eq_some` that every relation has such a link if the base URL of the API allows it.
* `Service.nopush_suffix_link` says when a link tells the client not to wait for a push.
* `getAll_link_responseHeaders` says which links a response gets, and `addLink_eraseDups` that links are
  collected without repetitions, in the order of their first appearance.
-/

namespace Hypermedia

open Delivery

/-! ## The link of a relation -/

/-- The end of a link that tells the client not to wait for a push. -/
def nopush : Bytes := Bytes.ofString "; nopush"

/-- A base URL may stand in a header field exactly if it may without the slashes at its end. -/
theorem isFieldByte_trimEnd_iff {base : String} :
    (Bytes.ofString (.ofList (Text.trimEnd '/' base.toList))).all isFieldByte = true ↔
      (Bytes.ofString base).all isFieldByte = true := by
  unfold Bytes.ofString Utf8.encode
  rw [List.all_flatMap, List.all_flatMap, List.all_eq_true, List.all_eq_true, String.toList_ofList]
  constructor
  · intro h c hc
    have hsplit : c ∈ Text.trimEnd '/' base.toList ∨ c = '/' := Text.mem_trimEnd_or_eq hc
    rcases hsplit with hleft | rfl
    · exact h c hleft
    · decide
  · intro h c hc
    unfold Text.trimEnd at hc
    rw [List.mem_reverse] at hc
    exact h c (List.mem_reverse.mp ((List.dropWhile_sublist _).subset hc))

namespace Service

variable {service : Service} {request : Request} {relation : Relation}

/-- The relations of a response are written in printable ASCII. -/
theorem isPrintable_text_of_relation? {found : Found}
    (h : service.relation? request found = some relation) : isPrintable relation.text = true := by
  unfold relation? at h
  cases hresolve : (Resolver.ofRequest service.routes request.uri).resolve found.node.pointer
      found.raw with
  | error error =>
      rw [hresolve] at h
      cases h
  | ok resolved =>
      rw [hresolve, Option.some.injEq] at h
      have hurl := Resolver.written_of_resolve (Resolver.written_base_ofRequest _ _) hresolve
      split_ifs at h
      · exact h ▸ Relation.isPrintable_text (Relation.written_withDirectives hurl found.node)
      · exact h ▸ Relation.isPrintable_text hurl

/-- The link of a relation of printable ASCII may stand in a header field, unless the base URL of the
API comes before it and may not. -/
theorem all_link_iff (htext : isPrintable relation.text = true) :
    (service.link relation).all isFieldByte = true ↔
      relation.sameOrigin = false ∨ ∀ base, service.settings.apiUrl = some base →
        (Bytes.ofString base).all isFieldByte = true := by
  have hend : (Bytes.ofString (if isNeverPushed service.settings relation then "; nopush"
      else "")).all isFieldByte = true := by
    split_ifs <;> decide
  unfold link Relation.preloadLink
  simp only [Bytes.ofString_append, List.all_append, isFieldByte_of_isPrintable htext, hend,
    Bool.and_true, Bool.and_eq_true]
  rw [and_iff_left (by decide), and_iff_right (by decide)]
  cases hurl : service.settings.apiUrl with
  | none => simp
  | some base =>
      cases hsame : relation.sameOrigin with
      | false => simp
      | true =>
          dsimp only
          rw [if_pos rfl, isFieldByte_trimEnd_iff]
          simp only [Bool.true_eq_false, false_or, Option.some.injEq, forall_eq']

/-- A relation has the link that advertises it, if that may stand in a header field. -/
theorem linkOf?_eq (service : Service) (relation : Relation) :
    linkOf? service.settings relation =
      if (service.link relation).all isFieldByte then some (service.link relation) else none := rfl

/-- A relation of printable ASCII has a link that can stand in a header field. -/
theorem linkOf?_eq_some
    (hbase : ∀ base, service.settings.apiUrl = some base →
      (Bytes.ofString base).all isFieldByte = true)
    (htext : isPrintable relation.text = true) :
    linkOf? service.settings relation = some (service.link relation) := by
  rw [linkOf?_eq, if_pos ((all_link_iff htext).mpr (.inr hbase))]

/-- A relation is never pushed where pushing is disabled or it has another origin. -/
theorem isNeverPushed_iff : isNeverPushed service.settings relation = true ↔
    service.settings.maxPushes = some 0 ∨ relation.sameOrigin = false := by
  simp [isNeverPushed, Settings.pushDisabled]

/-- A link tells the client not to wait exactly if the relation is never pushed. -/
theorem nopush_suffix_link : nopush <:+ service.link relation ↔
    service.settings.maxPushes = some 0 ∨ relation.sameOrigin = false := by
  rw [← isNeverPushed_iff]
  unfold link Relation.preloadLink nopush
  simp only [Bytes.ofString_append]
  cases isNeverPushed service.settings relation with
  | true => exact iff_of_true (List.suffix_append _ _) rfl
  | false =>
      refine iff_of_false (fun hsuffix => ?_) Bool.false_ne_true
      -- Without the mark, a link ends with the parameters that all links have.
      rw [if_neg Bool.false_ne_true, Bytes.ofString_empty, List.append_nil] at hsuffix
      have hend := List.suffix_of_suffix_length_le hsuffix (List.suffix_append _ _) (by decide)
      revert hend
      decide

end Service

/-! ## Lists without repetitions -/

section EraseDups

variable {α : Type} [BEq α] [LawfulBEq α] {items : List α} {item : α}

/-- One more item changes nothing if it is there. -/
theorem eraseDups_concat_of_mem (h : item ∈ items) :
    (items ++ [item]).eraseDups = items.eraseDups := by
  rw [List.eraseDups_append]
  simp [List.removeAll, h]

/-- One more item comes last if it is new. -/
theorem eraseDups_concat_of_not_mem (h : item ∉ items) :
    (items ++ [item]).eraseDups = items.eraseDups ++ [item] := by
  rw [List.eraseDups_append]
  simp [List.removeAll, h, List.eraseDups_cons]

end EraseDups

/-! ## The links of a response -/

/-- Fields of other names keep their values when the length of the body is set. -/
theorem getAll_withLength {name : String} (htransfer : "transfer-encoding" ≠ name)
    (hlength : "content-length" ≠ name) (headers : Headers) (length : Nat) :
    (withLength headers length).getAll name = headers.getAll name := by
  unfold withLength
  rw [Headers.getAll_insert_of_ne hlength, Headers.getAll_remove_of_ne htransfer]

/-- A response keeps its links when the length of the body is set. -/
theorem getAll_link_withLength (headers : Headers) (length : Nat) :
    (withLength headers length).getAll "link" = headers.getAll "link" :=
  getAll_withLength (by decide) (by decide) headers length

/-- A response gets the links after those that it had. -/
theorem getAll_link_responseHeaders (directives : Directives) (preloaded : Bool)
    (links : List Bytes) (length : Nat) (headers : Headers) :
    (Service.responseHeaders directives preloaded links length headers).getAll "link" =
      headers.getAll "link" ++ links := by
  unfold Service.responseHeaders
  rw [getAll_link_withLength, Headers.getAll_appendAll_self,
    Headers.getAll_ite_append_of_ne (by decide), Headers.getAll_ite_append_of_ne (by decide)]

/-- Links stay without repetitions. -/
theorem nodup_addLink {links : List Bytes} (h : links.Nodup) (link : Option Bytes) :
    (addLink links link).Nodup := by
  cases link with
  | none => exact h
  | some link =>
      unfold addLink
      dsimp only
      split_ifs with hold
      · exact h
      · rw [List.contains_iff_mem] at hold
        refine List.nodup_append.mpr ⟨h, List.pairwise_singleton _ _, ?_⟩
        rintro other hother _ hlink rfl
        rw [List.mem_singleton] at hlink
        exact hold (hlink ▸ hother)

/-- The links after one was added. -/
theorem mem_addLink {links : List Bytes} {link : Option Bytes} {other : Bytes} :
    other ∈ addLink links link ↔ other ∈ links ∨ link = some other := by
  cases link with
  | none => simp [addLink]
  | some link =>
      unfold addLink
      dsimp only
      split_ifs with hold
      · rw [List.contains_iff_mem] at hold
        refine ⟨Or.inl, ?_⟩
        rintro (hmem | hsame)
        · exact hmem
        · exact Option.some.inj hsame ▸ hold
      · rw [List.mem_append, List.mem_singleton, Option.some.injEq, eq_comm]

/-- Links are collected without repetitions, in the order of their first appearance. -/
theorem addLink_eraseDups (links : List Bytes) (link : Bytes) :
    addLink links.eraseDups (some link) = (links ++ [link]).eraseDups := by
  unfold addLink
  dsimp only
  by_cases h : link ∈ links
  · rw [eraseDups_concat_of_mem h, if_pos (List.contains_iff_mem.mpr (List.mem_eraseDups.mpr h))]
  · have hnew : ¬links.eraseDups.contains link = true := by
      rw [List.contains_iff_mem, List.mem_eraseDups]
      exact h
    rw [eraseDups_concat_of_not_mem h, if_neg hnew]

end Hypermedia
