import Hypermedia.Proofs.Delivery.Body

/-!
# What processing a response changes

Processing a response changes its header fields and the state of the connection, in ways that depend on
how far it gets: whether the body can be read, whether anything is asked for in it, and whether it is
JSON.

* `Amended` is what the header fields become: the length of the body is set, and values are added to
  `vary` and `link`.
* `Request.exists_resolved_iff` says in terms of the document whether some relation was resolved.
* `Service.apply_effects` is what changes for each outcome.
-/

namespace Hypermedia

open Delivery Push

/-! ## Header fields -/

/-- The header fields of a response with a body of some length, which have some more values for `vary`
and `link` than those before. -/
structure Amended (before : Headers) (length : Nat) (varied links : List Bytes)
    (after : Headers) : Prop where
  /-- The length is the only one. -/
  contentLength : after.getAll "content-length" = [Bytes.ofString (toString length)]
  /-- The body is not sent in chunks. -/
  transferEncoding : after.getAll "transfer-encoding" = []
  /-- The values for `vary` come after those before. -/
  vary : after.getAll "vary" = before.getAll "vary" ++ varied
  /-- The links come after those before. -/
  link : after.getAll "link" = before.getAll "link" ++ links
  /-- All other fields are as before. -/
  others : ∀ name, name ∉ ["content-length", "transfer-encoding", "vary", "link"] →
    after.getAll name = before.getAll name

/-- The length of a body is the only one, once it is set, and the body is not sent in chunks. -/
theorem withLength_length (headers : Headers) (length : Nat) :
    (withLength headers length).getAll "content-length" = [Bytes.ofString (toString length)] ∧
      (withLength headers length).getAll "transfer-encoding" = [] := by
  unfold withLength
  rw [Headers.getAll_insert_self, Headers.getAll_insert_of_ne (by decide),
    Headers.getAll_remove_self]
  exact ⟨rfl, rfl⟩

/-- A body that stays as it is gets its length and nothing else. -/
theorem amended_withLength (headers : Headers) (length : Nat) :
    Amended headers length [] [] (withLength headers length) where
  contentLength := (withLength_length headers length).1
  transferEncoding := (withLength_length headers length).2
  vary := by rw [getAll_vary_withLength, List.append_nil]
  link := by rw [getAll_link_withLength, List.append_nil]
  others := by
    intro name hname
    simp only [List.mem_cons, List.not_mem_nil, or_false, not_or] at hname
    exact getAll_withLength (Ne.symm hname.2.1) (Ne.symm hname.1) headers length

/-- A processed body gets its length, and what it varies by and its links are added. -/
theorem amended_responseHeaders (directives : Directives) (preloaded : Bool) (links : List Bytes)
    (length : Nat) (headers : Headers) :
    Amended headers length
      ((if preloaded then [Bytes.ofString "preload"] else []) ++
        if directives.isFromHeader .fields then [Bytes.ofString "fields"] else [])
      links (Service.responseHeaders directives preloaded links length headers) where
  contentLength := (withLength_length _ length).1
  transferEncoding := (withLength_length _ length).2
  vary := getAll_vary_responseHeaders directives preloaded links length headers
  link := getAll_link_responseHeaders directives preloaded links length headers
  others := by
    intro name hname
    simp only [List.mem_cons, List.not_mem_nil, or_false, not_or] at hname
    obtain ⟨hlength, htransfer, hvary, hlink⟩ := hname
    unfold Service.responseHeaders
    rw [getAll_withLength (Ne.symm htransfer) (Ne.symm hlength),
      Headers.getAll_appendAll_of_ne (Ne.symm hlink),
      Headers.getAll_ite_append_of_ne (Ne.symm hvary), Headers.getAll_ite_append_of_ne (Ne.symm hvary)]

/-! ## Relations -/

/-- A string names a relation exactly if it can be resolved. -/
theorem Service.isSome_relation?_iff {service : Service} {request : Request} {found : Found} :
    (service.relation? request found).isSome = true ↔
      ∃ relation, (Resolver.ofRequest service.routes request.uri).resolve found.node.pointer
        found.raw = .ok relation := by
  unfold relation?
  cases (Resolver.ofRequest service.routes request.uri).resolve found.node.pointer found.raw <;>
    simp

/-- Some string that is asked for names a relation exactly if there is a path in the document that leads
to such a string. -/
theorem Request.exists_resolved_iff (service : Service) (request : Request) (document : Json) :
    (request.tree.found document).any (service.relation? request · |>.isSome) = true ↔
      ∃ path raw node relation, (path, raw) ∈ document.strings ∧
        request.tree.request? path = some node ∧
        (Resolver.ofRequest service.routes request.uri).resolve node.pointer raw =
          .ok relation := by
  rw [List.any_eq_true]
  constructor
  · rintro ⟨found, hfound, hsome⟩
    obtain ⟨relation, hresolve⟩ := Service.isSome_relation?_iff.mp hsome
    obtain ⟨path, hentry, hnode⟩ := SelectorTree.exists_path_of_mem_found hfound
    exact ⟨path, found.raw, found.node, relation, hentry, hnode, hresolve⟩
  · rintro ⟨path, raw, node, relation, hentry, hnode, hresolve⟩
    exact ⟨⟨node, raw⟩, SelectorTree.mem_found hentry hnode,
      Service.isSome_relation?_iff.mpr ⟨relation, hresolve⟩⟩

/-! ## Whole responses -/

namespace Service

variable {σ : Type}

/-- Links are sent ahead once at most: if the settings say so and links were added. -/
theorem hinted_some (service : Service) (send : List Bytes → StateM σ Unit)
    (added links : List Bytes) (world : σ) :
    service.hinted (some send) added links world =
      if service.settings.earlyHints = true ∧ added ≠ [] then ((send links).run world).2
      else world := by
  simp [hinted]

/-- **What processing a response changes.** If the body cannot be read, nothing changes: the header
fields and the connection are as before, and the error says why. Otherwise there is a body. Its length
is the only one in the header fields, and it is not sent in chunks; values are added to `vary` and
`link` after those before, and all other fields stay. If nothing is asked for, or if the body is no
JSON, then it stays byte for byte, no values are added, and nothing happens to the connection. If
something is asked for in a document, then `vary` gets `preload` exactly if some string that is asked
for can be resolved, and `fields` exactly if that directive came from header fields. Links are sent
ahead exactly if the settings say so and links were added: once, when all else is done, with all the
links of the response in their order. Whether they are makes no difference to the response. -/
theorem apply_effects (service : Service) (request : Request) (pusher : Option (Pusher σ))
    (headers : Headers) (world : σ) :
    (∀ hint error, (service.apply request pusher hint (.error error) headers).run world =
      ((.error error, headers), world)) ∧
    ∀ received, ∃ body fields varied links delivered,
      (service.apply request pusher none (.ok received) headers).run world =
        ((.ok body, fields), delivered) ∧
      (∀ send, (service.apply request pusher (some send) (.ok received) headers).run world =
        ((.ok body, fields),
          if service.settings.earlyHints = true ∧ links ≠ [] then
            ((send (fields.getAll "link")).run delivered).2
          else delivered)) ∧
      Amended headers body.length varied links fields ∧
      (request.tree.isEmpty = true ∨ Json.parseBytes? received = none →
        body = received ∧ varied = [] ∧ links = [] ∧ delivered = world) ∧
      ∀ document, request.tree.isEmpty = false → Json.parseBytes? received = some document →
        ∃ preloaded : Bool,
          (preloaded = true ↔ ∃ path raw node relation, (path, raw) ∈ document.strings ∧
            request.tree.request? path = some node ∧
            (Resolver.ofRequest service.routes request.uri).resolve node.pointer raw =
              .ok relation) ∧
          varied = (if preloaded then [Bytes.ofString "preload"] else []) ++
            if request.directives.isFromHeader .fields then [Bytes.ofString "fields"] else [] := by
  refine ⟨fun hint error => rfl, fun received => ?_⟩
  rcases request.nothing_or_document received with hunchanged | ⟨hempty, document, hdocument⟩
  · have hrun : ∀ hint, (service.apply request pusher hint (.ok received) headers).run world =
        ((.ok received, withLength headers received.length), world) :=
      fun hint => apply_run_of_unchanged pusher hint headers world hunchanged
    refine ⟨received, withLength headers received.length, [], [], world, hrun none,
      fun send => ?_, amended_withLength headers received.length, fun _ => ⟨rfl, rfl, rfl, rfl⟩,
      fun document hempty hdocument => ?_⟩
    · rw [hrun, if_neg (by simp)]
    · rw [hempty, hdocument] at hunchanged
      simp at hunchanged
  · have hrun := fun hint =>
      apply_run_of_processed service pusher hint headers world hempty hdocument
    have hpreloaded : ((request.tree.found document).foldl (service.advance request pusher)
          ⟨[], false, world⟩).preloaded =
        (false || (request.tree.found document).any (service.relation? request · |>.isSome)) :=
      preloaded_foldl_advance pusher _ _
    generalize (request.tree.found document).foldl (service.advance request pusher)
      ⟨[], false, world⟩ = progress at hrun hpreloaded
    rw [Bool.false_or] at hpreloaded
    refine ⟨_, _, _, progress.links, progress.world, hrun none, fun send => ?_,
      amended_responseHeaders request.directives progress.preloaded progress.links _ headers,
      fun hunchanged => ?_, fun other _ hother => ⟨progress.preloaded, ?_, rfl⟩⟩
    · rw [hrun, hinted_some]
    · rw [hempty, hdocument] at hunchanged
      simp at hunchanged
    · obtain rfl := Option.some.inj (hdocument.symm.trans hother)
      rw [hpreloaded]
      exact Request.exists_resolved_iff service request document

end Service

end Hypermedia
