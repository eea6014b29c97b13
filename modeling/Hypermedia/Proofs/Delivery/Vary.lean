import Hypermedia.Proofs.Delivery.Body
import Hypermedia.Proofs.Pruning.Alike

/-!
# What a response does not vary by

A cache may answer a request with the response to another one if both agree in the header fields that
the response varies by. So two responses should show the same document if the requests differ in the
header fields of a directive only, and the first response does not vary by that directive.

* `Request.without` leaves the header fields of a directive out, and `Service.appended` is what a
  response adds to `vary`.
* `Request.directives_without` says that nothing changes for a directive that did not come from header
  fields.
* `Service.KeepsStrings` says that no string that is asked for is shown in another way;
  `Service.keepsStrings_iff` finds out for a document without relations.
* `Service.document_of_not_varied` compares the two responses.
-/

namespace Hypermedia

open Delivery Push

/-! ## Leaving header fields out -/

/-- The request without the header fields of a directive. -/
def Request.without (request : Request) (kind : Kind) : Request :=
  { request with headers := request.headers.remove kind.name }

namespace Directive

/-- A directive that is read knows where it came from. -/
theorem source_of_ofValues? {source : Source} {values : List String} {directive : Directive}
    (h : ofValues? source values = some directive) : directive.source = source := by
  unfold ofValues? at h
  split_ifs at h
  obtain ⟨paths, -, rfl⟩ := Option.map_eq_some_iff.mp h
  rfl

/-- Without its header fields a directive comes from the query. -/
theorem ofRequest?_remove_self (kind : Kind) (headers : Headers) (query : String) :
    ofRequest? kind (headers.remove kind.name) query =
      ofValues? .query (queryValues kind query) := by
  have hlines : headerLines kind (headers.remove kind.name) = [] := by
    rw [headerLines, Headers.getAll_remove_self, List.filterMap_nil]
  rw [ofRequest?, hlines]
  rfl

/-- The other directive stays as it is. -/
theorem ofRequest?_remove_of_ne {kind other : Kind} (h : kind ≠ other) (headers : Headers)
    (query : String) :
    ofRequest? other (headers.remove kind.name) query = ofRequest? other headers query := by
  have hname : kind.name ≠ other.name := by
    cases kind <;> cases other <;> simp_all [Kind.name]
  rw [ofRequest?, headerLines, Headers.getAll_remove_of_ne hname]
  rfl

/-- A directive that does not come from header fields comes from the query. -/
theorem ofRequest?_of_not_header {kind : Kind} {headers : Headers} {query : String}
    (h : (ofRequest? kind headers query).any (·.source = .header) = false) :
    ofRequest? kind headers query = ofValues? .query (queryValues kind query) := by
  unfold ofRequest? at h ⊢
  cases hheader : ofValues? .header (headerLines kind headers) with
  | none => rfl
  | some directive =>
      rw [hheader, Option.some_or, Option.any_some, source_of_ofValues? hheader] at h
      cases h

end Directive

namespace Request

variable {request : Request}

theorem get?_directives (request : Request) (kind : Kind) :
    request.directives.get? kind =
      Directive.ofRequest? kind request.headers (request.uri.query.getD "") := by
  cases kind <;> rfl

/-- The other directive stays as it is. -/
theorem get?_directives_without_of_ne {kind other : Kind} (h : kind ≠ other) :
    (request.without kind).directives.get? other = request.directives.get? other := by
  rw [get?_directives, get?_directives]
  exact Directive.ofRequest?_remove_of_ne h request.headers _

/-- Nothing changes for a directive that did not come from header fields. -/
theorem directives_without {kind : Kind} (h : request.directives.isFromHeader kind = false) :
    (request.without kind).directives = request.directives := by
  have hget : ∀ other,
      (request.without kind).directives.get? other = request.directives.get? other := by
    intro other
    by_cases hother : kind = other
    · subst hother
      unfold Directives.isFromHeader at h
      rw [get?_directives] at h
      rw [get?_directives, get?_directives, Directive.ofRequest?_of_not_header h]
      exact Directive.ofRequest?_remove_self kind request.headers _
    · exact get?_directives_without_of_ne hother
  cases hdirectives : request.directives
  cases hwithout : (request.without kind).directives
  rw [hdirectives, hwithout] at hget
  exact congrArg₂ Directives.mk (hget .preload) (hget .fields)

/-- Without the header fields of `preload` a document is pruned as before if there are no pointers for
`fields`, or if the pointers for `preload` are among them. -/
theorem prune_without_preload
    (h : request.directives.paths .fields = [] ∨
      ∀ pointer, pointer ∈ request.directives.paths .preload ∨
        pointer ∈ (request.without .preload).directives.paths .preload →
          pointer ∈ request.directives.paths .fields) (document : Json) :
    (request.without .preload).tree.prune document = request.tree.prune document := by
  have hfields : (request.without .preload).directives.paths .fields =
      request.directives.paths .fields := by
    unfold Directives.paths
    rw [get?_directives_without_of_ne (by decide)]
  unfold tree Directives.tree
  rw [hfields]
  rcases h with hnone | hamong
  · have hactive : ∀ preload, (SelectorTree.build preload []).fieldsActive = false :=
      fun preload => SelectorTree.fieldsActive_build preload []
    rw [hnone, SelectorTree.prune_of_not_fieldsActive (hactive _),
      SelectorTree.prune_of_not_fieldsActive (hactive _)]
  · exact SelectorTree.prune_build_congr (fun pointer hin => hamong pointer (.inr hin))
      (fun pointer hin => hamong pointer (.inl hin)) document

end Request

namespace Service

variable {σ : Type} {service : Service} {request : Request}

/-! ## Documents that are shown -/

/-- Whether a body shows a document: as it is printed, or in some other way. -/
def Shows (body : Bytes) (document : Json) : Prop :=
  body = document.renderBytes ∨ Json.parseBytes? body = some document

/-- The body of a response shows the processed document, also where it is as it was received. -/
theorem exists_bodyOf (service : Service) (request : Request) {received : Bytes} {document : Json}
    (hdocument : Json.parseBytes? received = some document) :
    ∃ body, service.bodyOf request (.ok received) = .ok body ∧
      Shows body (service.processed request document) := by
  unfold bodyOf
  dsimp only
  split_ifs with hempty
  · refine ⟨received, rfl, ?_⟩
    have hkeeps : service.processed request document = request.tree.prune document := by
      refine processed_eq_prune fun found hfound => ?_
      rw [SelectorTree.found_of_isEmpty request.marked_tree hempty] at hfound
      cases hfound
    have hactive : request.tree.fieldsActive = false := SelectorTree.fieldsActive_of_isEmpty hempty
    rw [hkeeps, SelectorTree.prune_of_not_fieldsActive hactive]
    exact .inr hdocument
  · rw [hdocument]
    exact ⟨_, rfl, .inl rfl⟩

/-- What is processed depends on the target and on the directives of a request only. -/
theorem bodyOf_congr {other : Request} (huri : other.uri = request.uri)
    (hdirectives : other.directives = request.directives) (body : Except BodyError Bytes) :
    service.bodyOf other body = service.bodyOf request body := by
  have htree : other.tree = request.tree := congrArg Directives.tree hdirectives
  have hrelation : service.relation? other = service.relation? request := by
    funext found
    unfold relation? isReplaced
    rw [huri, hdirectives]
  have hshown : service.shown other = service.shown request := by
    funext found
    unfold shown isReplaced
    rw [hrelation, hdirectives]
  unfold bodyOf processed shownString
  rw [htree, hshown]

/-- No string that is asked for is shown in another way. -/
def KeepsStrings (service : Service) (request : Request) (document : Json) : Prop :=
  ∀ found ∈ request.tree.found document, service.shown request found = found

/-- A string that names no relation is shown in another way exactly if relations are replaced and it
is not empty. -/
theorem shown_eq_self_iff {found : Found} (h : service.relation? request found = none) :
    service.shown request found = found ↔
      service.replaces request.directives = false ∨ found.raw = "" := by
  obtain ⟨node, raw⟩ := found
  unfold shown
  rw [h]
  cases service.replaces request.directives with
  | false => simp
  | true => simp [eq_comm]

/-- In a document without relations every string is kept exactly if relations are not replaced or all
that is asked for is empty. -/
theorem keepsStrings_iff {document : Json}
    (h : ∀ found ∈ request.tree.found document, service.relation? request found = none) :
    service.KeepsStrings request document ↔ service.replaces request.directives = false ∨
      ∀ found ∈ request.tree.found document, found.raw = "" := by
  constructor
  · intro hkeeps
    cases hreplaces : service.replaces request.directives with
    | false => exact .inl rfl
    | true =>
        refine .inr fun found hfound => ?_
        have hshown := (shown_eq_self_iff (h found hfound)).mp (hkeeps found hfound)
        exact hshown.resolve_left (by simp [hreplaces])
  · rintro hkeeps found hfound
    exact (shown_eq_self_iff (h found hfound)).mpr (hkeeps.imp_right (· found hfound))

/-! ## What responses vary by -/

/-- What a response adds to the values of `vary` that it had before. -/
def appended (before after : Headers) : List Bytes :=
  (after.getAll "vary").drop (before.getAll "vary").length

theorem appended_apply (service : Service) (request : Request)
    (pusher : Option (Pusher σ)) (hint : Option (List Bytes → StateM σ Unit))
    (body : Except BodyError Bytes) (headers : Headers) (world : σ) :
    appended headers ((service.apply request pusher hint body headers).run world).1.2 =
      service.variedOf request body := by
  rw [appended, (apply_body_and_varied service request pusher hint body headers world).2,
    List.drop_left]

/-- A response to a request with pointers varies by `fields` if that directive came from header
fields. -/
theorem isFromHeader_of_not_mem_variedOf {received : Bytes} {document : Json}
    (hempty : request.tree.isEmpty = false) (hdocument : Json.parseBytes? received = some document)
    (h : Bytes.ofString "fields" ∉ service.variedOf request (.ok received)) :
    request.directives.isFromHeader .fields = false := by
  rw [Bool.eq_false_iff]
  intro hheader
  apply h
  simp [variedOf, hempty, hdocument, hheader]

/-- Where a response does not vary by `preload`, no string that is asked for names a relation. -/
theorem relation?_of_not_mem_variedOf {received : Bytes} {document : Json}
    (hdocument : Json.parseBytes? received = some document)
    (h : Bytes.ofString "preload" ∉ service.variedOf request (.ok received)) :
    ∀ found ∈ request.tree.found document, service.relation? request found = none := by
  intro found hfound
  cases hempty : request.tree.isEmpty with
  | true =>
      rw [SelectorTree.found_of_isEmpty request.marked_tree hempty] at hfound
      cases hfound
  | false =>
      rw [← Option.not_isSome_iff_eq_none]
      intro hsome
      have hany : (request.tree.found document).any
          (service.relation? request · |>.isSome) = true :=
        List.any_eq_true.mpr ⟨found, hfound, hsome⟩
      apply h
      simp [variedOf, hempty, hdocument, hany]

/-! ## Two responses -/

/-- **What a response does not vary by.** The response to a request and the one to the request without
the header fields of a directive show the two processed documents.

They have the same body if the directive did not come from header fields. So they do if the request
has pointers and the first response does not vary by `fields`.

If the first response does not vary by `preload`, then the strings of its document that are asked for
are as they were received, unless relations are replaced and one of these strings is not empty. If
both documents keep their strings, they are the same exactly if both requests prune the received
document alike, as they do without pointers for `fields` and where the pointers for `preload` are
among them. -/
theorem document_of_not_varied (service : Service) (request : Request) (kind : Kind)
    {received : Bytes} {document : Json} (hdocument : Json.parseBytes? received = some document)
    (hint hint' : Option (List Bytes → StateM σ Unit)) (headers headers' : Headers)
    (world world' : σ) :
    let response := ((service.apply request none hint (.ok received) headers).run world).1
    let response' :=
      ((service.apply (request.without kind) none hint' (.ok received) headers').run world').1
    (∃ body body', response.1 = .ok body ∧ response'.1 = .ok body' ∧
      Shows body (service.processed request document) ∧
      Shows body' (service.processed (request.without kind) document)) ∧
    (request.directives.isFromHeader kind = false → response'.1 = response.1) ∧
    (kind = .fields → request.tree.isEmpty = false →
      Bytes.ofString "fields" ∉ appended headers response.2 → response'.1 = response.1) ∧
    (kind = .preload → Bytes.ofString "preload" ∉ appended headers response.2 →
      (service.KeepsStrings request document ↔ service.replaces request.directives = false ∨
        ∀ found ∈ request.tree.found document, found.raw = "") ∧
      (service.KeepsStrings request document →
        service.KeepsStrings (request.without kind) document →
        (service.processed (request.without kind) document = service.processed request document ↔
          (request.without kind).tree.prune document = request.tree.prune document) ∧
        ((request.directives.paths .fields = [] ∨
          ∀ pointer, pointer ∈ request.directives.paths .preload ∨
            pointer ∈ (request.without kind).directives.paths .preload →
              pointer ∈ request.directives.paths .fields) →
          service.processed (request.without kind) document =
            service.processed request document))) := by
  have hbody := (apply_body_and_varied service request none hint (.ok received) headers world).1
  have hbody' := (apply_body_and_varied service (request.without kind) none hint' (.ok received)
    headers' world').1
  have happended := appended_apply service request none hint (.ok received) headers world
  have huri : (request.without kind).uri = request.uri := rfl
  have hsame : request.directives.isFromHeader kind = false →
      service.bodyOf (request.without kind) (.ok received) =
        service.bodyOf request (.ok received) :=
    fun hsource => bodyOf_congr huri (Request.directives_without hsource) _
  dsimp only
  rw [hbody, hbody', happended]
  refine ⟨?_, hsame, ?_, ?_⟩
  · obtain ⟨body, hshown⟩ := exists_bodyOf service request hdocument
    obtain ⟨body', hshown'⟩ := exists_bodyOf service (request.without kind) hdocument
    exact ⟨body, body', hshown.1, hshown'.1, hshown.2, hshown'.2⟩
  · rintro rfl hempty hvaried
    exact hsame (isFromHeader_of_not_mem_variedOf hempty hdocument hvaried)
  · rintro rfl hvaried
    refine ⟨keepsStrings_iff (relation?_of_not_mem_variedOf hdocument hvaried),
      fun hkeeps hkeeps' => ?_⟩
    rw [processed_eq_prune hkeeps, processed_eq_prune hkeeps']
    exact ⟨Iff.rfl, fun hfields => Request.prune_without_preload hfields document⟩

/-- A book of a shop. -/
def pricedBook : Bytes :=
  Bytes.ofString "\x7b\"title\":\"t\",\"price\":5,\"stock\":7\x7d"

/-- A request for the title and the price of a book. -/
def priceRequest : Request :=
  ⟨⟨none, none, "/books/1", none⟩,
    ⟨[("preload", Bytes.ofString "\"/price\""),
      ("fields", Bytes.ofString "\"/title\", \"/price\"")]⟩⟩

/-- The same by the query, with header fields that cannot be read. -/
def priceQueryRequest : Request :=
  ⟨⟨none, none, "/books/1", some "fields=%22%2Ftitle%22%2C%20%22%2Fprice%22"⟩,
    ⟨[("fields", Bytes.ofString "\"/title")]⟩⟩

/-- A price is no relation, so the response varies by `fields` only, and it is the same document
without the header field of `preload`. If the fields come from the query, it does not vary by
`fields`, and is the same without the header field. -/
theorem document_of_not_varied_price :
    ∃ document, Json.parseBytes? pricedBook = some document ∧
      Bytes.ofString "preload" ∉ appended ⟨[]⟩
        ((apply ⟨{}, none⟩ priceRequest none none (.ok pricedBook) ⟨[]⟩).run ()).1.2 ∧
      processed ⟨{}, none⟩ (priceRequest.without .preload) document =
        processed ⟨{}, none⟩ priceRequest document ∧
      Bytes.ofString "fields" ∉ appended ⟨[]⟩
        ((apply ⟨{}, none⟩ priceQueryRequest none none (.ok pricedBook) ⟨[]⟩).run ()).1.2 ∧
      ((apply ⟨{}, none⟩ (priceQueryRequest.without .fields) none none (.ok pricedBook)
        ⟨[]⟩).run ()).1.1 =
        ((apply ⟨{}, none⟩ priceQueryRequest none none (.ok pricedBook) ⟨[]⟩).run ()).1.1 := by
  have hparsed : (Json.parseBytes? pricedBook).isSome = true := by decide +kernel
  obtain ⟨document, hdocument⟩ := Option.isSome_iff_exists.mp hparsed
  obtain ⟨-, -, -, hpreload⟩ := document_of_not_varied ⟨{}, none⟩ priceRequest .preload hdocument
    none none ⟨[]⟩ ⟨[]⟩ () ()
  obtain ⟨-, -, hfields, -⟩ := document_of_not_varied ⟨{}, none⟩ priceQueryRequest .fields hdocument
    none none ⟨[]⟩ ⟨[]⟩ () ()
  have hvaried : Bytes.ofString "preload" ∉ appended ⟨[]⟩
      ((apply ⟨{}, none⟩ priceRequest none none (.ok pricedBook) ⟨[]⟩).run ()).1.2 := by
    decide +kernel
  have hvaried' : Bytes.ofString "fields" ∉ appended ⟨[]⟩
      ((apply ⟨{}, none⟩ priceQueryRequest none none (.ok pricedBook) ⟨[]⟩).run ()).1.2 := by
    decide +kernel
  obtain ⟨hkeeps, hsame⟩ := hpreload rfl hvaried
  have hreplaces : replaces ⟨{}, none⟩ priceRequest.directives = false := by decide +kernel
  have hreplaces' : replaces ⟨{}, none⟩ (priceRequest.without .preload).directives = false := by
    decide +kernel
  have hamong : ∀ pointer, pointer ∈ priceRequest.directives.paths .preload ∨
      pointer ∈ (priceRequest.without .preload).directives.paths .preload →
        pointer ∈ priceRequest.directives.paths .fields := by
    have hpaths : priceRequest.directives.paths .preload = ["/price"] := by decide +kernel
    have hpaths' : (priceRequest.without .preload).directives.paths .preload = [] := by
      decide +kernel
    have hfields : priceRequest.directives.paths .fields = ["/title", "/price"] := by
      decide +kernel
    rw [hpaths, hpaths', hfields]
    simp
  exact ⟨document, hdocument, hvaried,
    (hsame (hkeeps.mpr (.inl hreplaces)) fun found _ => shown_of_not_replaces hreplaces' found).2
      (.inr hamong), hvaried', hfields rfl (by decide +kernel) hvaried'⟩

/-- Whether a response does not vary by a directive, and yet shows another document than the response
to the request without the header fields of the directive. -/
def Misses (service : Service) (request : Request) (kind : Kind) (received : Bytes) : Prop :=
  ∃ body body',
    ((service.apply request none none (.ok received) ⟨[]⟩).run ()).1.1 = .ok body ∧
    ((service.apply (request.without kind) none none (.ok received) ⟨[]⟩).run ()).1.1 = .ok body' ∧
    Bytes.ofString kind.name ∉
      appended ⟨[]⟩ ((service.apply request none none (.ok received) ⟨[]⟩).run ()).1.2 ∧
    (Json.parseBytes? body).isSome = true ∧ (Json.parseBytes? body').isSome = true ∧
    Json.parseBytes? body ≠ Json.parseBytes? body'

/-- Documents differ if they are printed in different ways. -/
theorem parseBytes?_ne {body body' : Bytes}
    (h : (Json.parseBytes? body).map Json.renderBytes ≠
      (Json.parseBytes? body').map Json.renderBytes) :
    Json.parseBytes? body ≠ Json.parseBytes? body' :=
  fun heq => h (congrArg (Option.map Json.renderBytes) heq)

/-- A response can differ from the one without the header fields of `preload` though it does not vary
by them: where these keep a part that is no relation, where they blank a string that is no relation,
and where they take the place of a query that asks for a relation. And header fields of `fields`
without pointers take the place of a query, but the response does not vary by them. -/
theorem document_of_not_varied_ne :
    Misses ⟨{}, none⟩
      ⟨⟨none, none, "/books/1", none⟩, ⟨[("preload", Bytes.ofString "\"/author\""),
        ("fields", Bytes.ofString "\"/title\"")]⟩⟩ .preload
      (Bytes.ofString "\x7b\"title\":\"t\",\"author\":5\x7d") ∧
    Misses ⟨{ replacementPolicy := .always }, none⟩
      ⟨⟨none, none, "/books/1", none⟩, ⟨[("preload", Bytes.ofString "\"/author\"")]⟩⟩ .preload
      (Bytes.ofString "\x7b\"author\":\"http://[\"\x7d") ∧
    Misses ⟨{}, none⟩
      ⟨⟨none, none, "/books/1", some "preload=%22%2Fauthor%22"⟩,
        ⟨[("preload", Bytes.ofString "\"/title\"")]⟩⟩ .preload
      (Bytes.ofString "\x7b\"author\":\"../authors/5\"\x7d") ∧
    Misses ⟨{}, none⟩
      ⟨⟨none, none, "/books/1", some "fields=%22%2Ftitle%22"⟩,
        ⟨[("fields", Bytes.ofString "")]⟩⟩ .fields
      (Bytes.ofString "\x7b\"title\":\"t\",\"author\":5\x7d") := by
  refine ⟨⟨Bytes.ofString "\x7b\"title\":\"t\",\"author\":5\x7d",
      Bytes.ofString "\x7b\"title\":\"t\"\x7d", ?_, ?_, ?_, ?_, ?_, parseBytes?_ne ?_⟩,
    ⟨Bytes.ofString "\x7b\"author\":\"\"\x7d",
      Bytes.ofString "\x7b\"author\":\"http://[\"\x7d", ?_, ?_, ?_, ?_, ?_, parseBytes?_ne ?_⟩,
    ⟨Bytes.ofString "\x7b\"author\":\"../authors/5\"\x7d",
      Bytes.ofString "\x7b\"author\":\"/authors/5\"\x7d", ?_, ?_, ?_, ?_, ?_, parseBytes?_ne ?_⟩,
    ⟨Bytes.ofString "\x7b\"title\":\"t\",\"author\":5\x7d",
      Bytes.ofString "\x7b\"title\":\"t\"\x7d", ?_, ?_, ?_, ?_, ?_, parseBytes?_ne ?_⟩⟩
  all_goals decide +kernel

end Service

end Hypermedia
