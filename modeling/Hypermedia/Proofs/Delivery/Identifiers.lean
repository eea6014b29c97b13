import Hypermedia.Proofs.Delivery.Body
import Hypermedia.Proofs.Description.Links
import Hypermedia.Proofs.Pruning.Replaced

/-!
# Identifiers

Documents may hold identifiers instead of relations. A route lookup makes relations of them, which are
pushed and advertised, while the identifiers stay in the document.

* `Service.processed_at?` is the string at a path of the processed document.
* `Service.shown_raw_of_lookup` is how a string is shown of which a relation is made.
* `Service.identifier_kept` puts these together for responses: an identifier stays unless relations are
  replaced and the relation made of it cannot be read. Then it is blanked, as a string that names no
  relation is.
-/

namespace Hypermedia

open Delivery Push

/-- A value that has a text is that text. -/
theorem Json.eq_string_of_asString? {value : Json} {raw : String}
    (h : value.asString? = some raw) : value = .string raw := by
  cases value with
  | string text => exact congrArg Json.string (Option.some.inj h)
  | _ => cases h

/-- A route lookup supplies what it makes of a string in a response of the route, if that is not
empty. -/
theorem Resolver.lookupOf_eq_some_iff {routes : RouteLookup} {uri : Uri} {selector raw made : String} :
    lookupOf (some routes) uri selector raw = some made ↔
      (∃ route, routes.route? uri = some route ∧
        routes.relation? route selector raw = some made) ∧ made ≠ "" := by
  unfold lookupOf
  simp [Option.filter_eq_some_iff, Option.bind_eq_some_iff]

namespace Service

variable {service : Service} {request : Request} {path : List Json.Step} {node : Node}
  {document : Json} {raw made : String}

/-- A string that is asked for is at its path in the processed document, as it is shown. -/
theorem processed_at? (hnode : request.tree.request? path = some node)
    (hraw : document.at? path = some (.string raw)) :
    (service.processed request document).at? path =
      some (.string (service.shown request ⟨node, raw⟩).raw) := by
  have hpruned : (request.tree.prune document).at? path = some (.string raw) :=
    SelectorTree.prune_at?_of_request? (SelectorTree.means_build _ _) hnode hraw
  have hshown : service.shownString request path raw = (service.shown request ⟨node, raw⟩).raw := by
    unfold shownString
    rw [hnode]
  rw [processed, Json.at?_replaceStrings, hpruned, ← hshown]
  exact congrArg (fun rest => some (Json.string (service.shownString request rest raw)))
    (List.append_nil path)

/-- A relation that a route lookup made never takes the place of its string. -/
theorem isReplaced_eq_false {relation : Relation} (h : relation.fromRouteLookup = true) :
    service.isReplaced request relation = false := by
  unfold isReplaced
  rw [h, Bool.not_true, Bool.and_false]

/-- The relation that a route lookup makes of a string, if it can be read. -/
theorem relation?_of_lookup
    (hmade : Resolver.lookupOf service.routes request.uri node.pointer raw = some made) :
    service.relation? request ⟨node, raw⟩ =
      (Relation.parse (Resolver.baseOf request.uri) made).toOption.map fun relation =>
        { relation with fromRouteLookup := true } := by
  have hresolve : (Resolver.ofRequest service.routes request.uri).resolve node.pointer raw =
      (Relation.parse (Resolver.baseOf request.uri) made).map fun relation =>
        { relation with fromRouteLookup := true } := by
    simp only [Resolver.resolve, Resolver.ofRequest, hmade]
  unfold relation?
  dsimp only
  rw [hresolve]
  cases Relation.parse (Resolver.baseOf request.uri) made with
  | error error => rfl
  | ok relation => simp [Except.map, Except.toOption, isReplaced_eq_false]

/-- A string of which a relation is made is shown as it is, unless relations are replaced and the one
made of it cannot be read. -/
theorem shown_raw_of_lookup
    (hmade : Resolver.lookupOf service.routes request.uri node.pointer raw = some made) :
    (service.shown request ⟨node, raw⟩).raw =
      if service.replaces request.directives &&
          !(Relation.parse (Resolver.baseOf request.uri) made).isOk then ""
      else raw := by
  have hrelation := relation?_of_lookup hmade
  cases hparsed : Relation.parse (Resolver.baseOf request.uri) made with
  | error error =>
      rw [hparsed] at hrelation
      unfold shown
      rw [hrelation]
      cases service.replaces request.directives <;> rfl
  | ok relation =>
      rw [hparsed] at hrelation
      rw [shown_raw hrelation, isReplaced_eq_false rfl]
      cases service.replaces request.directives <;> rfl

/-! ## Responses -/

variable {σ : Type} {routes : RouteLookup} {route : String}

/-- **An identifier stays in the document.** Let a string of a document be asked for as a relation, and
let the route lookup make a relation of it that is not empty. In the body of the response the string
is at its path as it was, whatever the request, the policy, the pusher and the hints are, exactly if
relations are not replaced, or the relation that was made can be read, or the string was empty.
Otherwise it is blanked. -/
theorem identifier_kept (service : Service) (request : Request) (pusher : Option (Pusher σ))
    (hint : Option (List Bytes → StateM σ Unit)) {received : Bytes} (headers : Headers) (world : σ)
    (hdocument : Json.parseBytes? received = some document)
    (hraw : document.at? path = some (.string raw))
    (hnode : request.tree.request? path = some node)
    (hroutes : service.routes = some routes) (hroute : routes.route? request.uri = some route)
    (hmade : routes.relation? route node.pointer raw = some made) (hne : made ≠ "") :
    ∃ answered : Json, ((service.apply request pusher hint (.ok received) headers).run world).1.1 =
        .ok answered.renderBytes ∧
      (answered.at? path = some (.string raw) ↔ service.replaces request.directives = false ∨
        (Relation.parse (Resolver.baseOf request.uri) made).isOk = true ∨ raw = "") ∧
      (answered.at? path ≠ some (.string raw) → answered.at? path = some (.string "")) := by
  have hlookup : Resolver.lookupOf service.routes request.uri node.pointer raw = some made := by
    rw [hroutes]
    exact Resolver.lookupOf_eq_some_iff.mpr ⟨⟨route, hroute, hmade⟩, hne⟩
  have hempty : request.tree.isEmpty = false :=
    SelectorTree.isEmpty_of_request? request.marked_tree hnode
  have hanswered := apply_run_of_processed service pusher hint headers world hempty hdocument
  refine ⟨service.processed request document, congrArg (·.1.1) hanswered, ?_⟩
  rw [processed_at? hnode hraw, shown_raw_of_lookup hlookup]
  cases service.replaces request.directives with
  | false => simp
  | true =>
      cases (Relation.parse (Resolver.baseOf request.uri) made).isOk with
      | true => simp
      | false => simp [eq_comm]

/-- The service of books whose authors are users. -/
def authorsService : Service :=
  ⟨{}, some Description.authors.lookup⟩

/-- A request for a book with its author, by the query. -/
def authorQueryRequest : Request :=
  ⟨⟨none, none, "/books/1", some "preload=%22%2Fauthor%22"⟩, ⟨[]⟩⟩

/-- The author `5` stays in the document of a book, although relations are replaced there. -/
theorem identifier_kept_author :
    authorsService.replaces authorQueryRequest.directives = true ∧
    ∃ answered : Json, ((authorsService.apply authorQueryRequest none none
        (.ok (Bytes.ofString "\x7b\"author\":\"5\"\x7d")) ⟨[]⟩).run ()).1.1 =
        .ok answered.renderBytes ∧ answered.at? [.member "author"] = some (.string "5") := by
  have htext : ((Json.parseBytes? (Bytes.ofString "\x7b\"author\":\"5\"\x7d")).bind
      (·.at? [.member "author"])).bind Json.asString? = some "5" := by decide +kernel
  obtain ⟨value, hvalue, htext⟩ := Option.bind_eq_some_iff.mp htext
  obtain ⟨document, hdocument, hraw⟩ := Option.bind_eq_some_iff.mp hvalue
  obtain rfl := Json.eq_string_of_asString? htext
  have hpointer : (authorQueryRequest.tree.request? [.member "author"]).map (·.pointer) =
      some "/author" := by decide +kernel
  obtain ⟨node, hnode, hpointer⟩ := Option.map_eq_some_iff.mp hpointer
  have hmade : Description.authors.relationOf? "/books/\x7bid\x7d" node.pointer "5" =
      some "/users/5" := by
    rw [hpointer]
    decide +kernel
  have hread : (Relation.parse (Resolver.baseOf authorQueryRequest.uri) "/users/5").isOk =
      true := by decide +kernel
  obtain ⟨answered, hbody, hkept, -⟩ := identifier_kept authorsService authorQueryRequest none none
    ⟨[]⟩ () hdocument hraw hnode rfl (by decide +kernel) hmade (by decide)
  exact ⟨by decide +kernel, answered, hbody, hkept.mpr (.inr (.inl hread))⟩

/-- Books whose authors are at the top of the API. -/
def topAuthors : Description :=
  ⟨[("/books/\x7bid\x7d", ⟨some ⟨some "getBook", [("200", [("author",
      ⟨some "getUser", [("userId", some "$response.body#/author")]⟩)])]⟩, []⟩),
    ("/\x7buserId\x7d", ⟨some ⟨some "getUser", []⟩, []⟩)]⟩

/-- An identifier of which a relation is made that cannot be read is blanked: the author `/[` of a book
makes the relation `//[`, which has half an address for its host. -/
theorem identifier_blanked :
    ((Json.parseBytes? (Bytes.ofString "\x7b\"author\":\"/[\"\x7d")).bind
      (·.at? [.member "author"])).bind Json.asString? = some "/[" ∧
    (authorQueryRequest.tree.request? [.member "author"]).map (·.pointer) = some "/author" ∧
    topAuthors.lookup.route? authorQueryRequest.uri = some "/books/\x7bid\x7d" ∧
    topAuthors.lookup.relation? "/books/\x7bid\x7d" "/author" "/[" = some "//[" ∧
    ((apply ⟨{}, some topAuthors.lookup⟩ authorQueryRequest none none
      (.ok (Bytes.ofString "\x7b\"author\":\"/[\"\x7d")) ⟨[]⟩).run ()).1.1 =
        .ok (Bytes.ofString "\x7b\"author\":\"\"\x7d") := by
  decide +kernel

end Service

end Hypermedia
