import Hypermedia.Proofs.CarriedDirectives
import Hypermedia.Proofs.Delivery.NothingLost

/-!
# The header fields of a pushed request

A relation is pushed with the header fields of the request that it was found for. Directives that came
from these fields are narrowed to the selections below the node of the relation, and the correlation
identifier of the cycle is added.

* `Request.writable_subSelectors` says that selections below a node of a request can always be written.
* `getAll_forwardedHeaders_name` and `getAll_forwardedHeaders_of_ne` are the fields of a directive and
  all other fields, `get?_forwardedHeaders` is the directive that is read from them.
* `Service.PushedFor` is a push with the header fields for a node; `Service.exists_calls_apply` says that
  a response makes no others.
* `Service.pushes_narrowed` puts these together.
-/

namespace Hypermedia

open Delivery Push

/-! ## The selections of a request -/

/-- The pointers below a node of a request are printable. -/
theorem Request.isPrintable_of_mem_subSelectors {request : Request} {path : List Segment}
    {node : Node} (hnode : request.tree.root.descend? path = some node) {kind : Kind}
    {pointer : String} (hpointer : pointer ∈ node.subSelectors kind) :
    isPrintable pointer = true := by
  unfold tree Directives.tree at hnode
  rw [SelectorTree.build_eq_ofInserts] at hnode
  refine SelectorTree.isPrintable_of_mem_subSelectors (fun entry hentry => ?_) hnode hpointer
  obtain ⟨inserted, other⟩ := entry
  rw [SelectorTree.mem_insertsOf] at hentry
  rcases hentry with ⟨-, hmem⟩ | ⟨-, hmem⟩
  · exact Directives.isPrintable_of_mem_paths hmem
  · exact Directives.isPrintable_of_mem_paths hmem

/-- The selections below a node of a request can be written, if there are any. -/
theorem Request.writable_subSelectors {request : Request} {path : List Segment} {node : Node}
    (hnode : request.tree.root.descend? path = some node) {kind : Kind}
    (hsome : node.subSelectors kind ≠ []) : Directive.Writable (node.subSelectors kind) :=
  ⟨hsome, fun _ hpointer => isPrintable_of_mem_subSelectors hnode hpointer⟩

/-- What concrete keys lead to is at some path. -/
theorem Node.exists_descend?_of_follow? {node found : Node} {names : List String}
    (h : node.follow? names = some found) : ∃ path, node.descend? path = some found := by
  induction names generalizing node with
  | nil => exact ⟨[], h⟩
  | cons name rest ih =>
      rw [follow?_cons] at h
      obtain ⟨child, hchild, hrest⟩ := Option.bind_eq_some_iff.mp h
      obtain ⟨segment, hsegment⟩ := child?_of_matchChild hchild
      obtain ⟨path, hpath⟩ := ih hrest
      refine ⟨segment :: path, ?_⟩
      rw [descend?_cons, hsegment, Option.bind_some, hpath]

/-- A string of a document is asked for by a node of the tree. -/
theorem SelectorTree.exists_descend?_of_mem_found {tree : SelectorTree} {document : Json}
    {found : Found} (h : found ∈ tree.found document) :
    ∃ path, tree.root.descend? path = some found.node := by
  obtain ⟨steps, -, hnode⟩ := exists_path_of_mem_found h
  obtain ⟨hfollow, -⟩ := Option.filter_eq_some_iff.mp hnode
  exact Node.exists_descend?_of_follow? hfollow

/-! ## Fields of a pushed request -/

section Fields

variable {directives : Directives} {node : Node}

/-- Fields of other names stay when a directive is narrowed. -/
theorem getAll_narrow_of_ne {kind : Kind} {name : String} (h : kind.name ≠ name)
    (headers : Headers) :
    (narrow directives node headers kind).getAll name = headers.getAll name := by
  unfold narrow
  split_ifs
  · split
    · exact Headers.getAll_insert_of_ne h headers _
    · rfl
  · rfl

/-- The value that a narrowed directive has, if it has one. -/
def narrowedValues (directives : Directives) (node : Node) (kind : Kind) : List Bytes :=
  if directives.isFromHeader kind && !(node.subSelectors kind).isEmpty then
    [Bytes.ofString (Directive.text (node.subSelectors kind))]
  else []

/-- The field of a directive that is narrowed and had no value before. -/
theorem getAll_narrow_self {kind : Kind}
    (hwritable : node.subSelectors kind ≠ [] → Directive.Writable (node.subSelectors kind))
    {headers : Headers} (h : headers.getAll kind.name = []) :
    (narrow directives node headers kind).getAll kind.name =
      narrowedValues directives node kind := by
  unfold narrow narrowedValues
  cases directives.isFromHeader kind with
  | false => exact h
  | true =>
      by_cases hnone : node.subSelectors kind = []
      · simp [hnone, Directive.render?, h]
      · have hvalue := isFieldByte_of_isPrintable (hwritable hnone).isPrintable_text
        simp [(hwritable hnone).render?_eq, fieldValue?, hvalue, hnone]

/-- The field of a directive in the request for a relation. -/
theorem getAll_forwardedHeaders_name {kind : Kind}
    (hwritable : node.subSelectors kind ≠ [] → Directive.Writable (node.subSelectors kind))
    (headers : Headers) (directives : Directives) :
    (forwardedHeaders headers directives node).getAll kind.name =
      narrowedValues directives node kind := by
  -- Both fields are removed first, and each is inserted without touching the other one.
  have hte : ∀ fields : Headers, (fields.remove "te").getAll kind.name = fields.getAll kind.name :=
    fun fields => Headers.getAll_remove_of_ne (by cases kind <;> decide) fields
  unfold forwardedHeaders Kind.all
  rw [List.foldl_cons, List.foldl_cons, List.foldl_nil]
  cases kind with
  | preload =>
      rw [getAll_narrow_of_ne (by decide)]
      refine getAll_narrow_self hwritable ?_
      rw [hte, Kind.name, Headers.getAll_remove_of_ne (by decide), Headers.getAll_remove_self]
  | fields =>
      refine getAll_narrow_self hwritable ?_
      rw [getAll_narrow_of_ne (by decide), hte, Kind.name, Headers.getAll_remove_self]

/-- Any other field in the request for a relation. -/
theorem getAll_forwardedHeaders_of_ne {name : String} (hpreload : "preload" ≠ name)
    (hfields : "fields" ≠ name) (headers : Headers) :
    (forwardedHeaders headers directives node).getAll name =
      (headers.remove "te").getAll name := by
  have hname : ∀ kind : Kind, kind.name ≠ name
    | .preload => hpreload
    | .fields => hfields
  unfold forwardedHeaders Kind.all
  rw [List.foldl_cons, List.foldl_cons, List.foldl_nil, getAll_narrow_of_ne (hname .fields),
    getAll_narrow_of_ne (hname .preload)]
  by_cases hte : "te" = name
  · subst hte
    rw [Headers.getAll_remove_self, Headers.getAll_remove_self]
  · rw [Headers.getAll_remove_of_ne hte, Headers.getAll_remove_of_ne hte,
      Headers.getAll_remove_of_ne hfields, Headers.getAll_remove_of_ne hpreload]

end Fields

/-! ## Reading the directives back -/

/-- No parameter of the query has the name of a directive. -/
def Uri.NamesNoDirective (uri : Uri) : Prop :=
  ∀ pair ∈ Query.pairs (uri.query.getD ""), ∀ kind : Kind, pair.1 ≠ kind.name

/-- Without a query there are no parameters. -/
theorem Uri.NamesNoDirective.of_query_eq_none {uri : Uri} (h : uri.query = none) :
    uri.NamesNoDirective := by
  have hpairs : Query.pairs (uri.query.getD "") = [] := by
    rw [h]
    rfl
  intro pair hpair
  rw [hpairs] at hpair
  cases hpair

/-- Where no parameter names a directive, the query has no values for one. -/
theorem Uri.NamesNoDirective.queryValues_eq_nil {uri : Uri} (h : uri.NamesNoDirective)
    (kind : Kind) : Directive.queryValues kind (uri.query.getD "") = [] := by
  unfold Directive.queryValues
  rw [List.map_eq_nil_iff, List.filter_eq_nil_iff]
  intro pair hpair
  rw [decide_eq_true_eq]
  exact h pair hpair kind

/-- What is read from the header fields of the request for a relation. -/
theorem get?_forwardedHeaders {directives : Directives} {node : Node} {kind : Kind}
    (hwritable : node.subSelectors kind ≠ [] → Directive.Writable (node.subSelectors kind))
    (headers : Headers) {uri : Uri} (huri : uri.NamesNoDirective) :
    (Directives.ofRequest (forwardedHeaders headers directives node) uri).get? kind =
      if directives.isFromHeader kind && !(node.subSelectors kind).isEmpty then
        some ⟨node.subSelectors kind, .header⟩
      else none := by
  have hvalues := getAll_forwardedHeaders_name hwritable headers directives
  unfold narrowedValues at hvalues
  rw [Directives.get?_ofRequest]
  split_ifs at hvalues ⊢ with hnarrowed
  · have hsome : node.subSelectors kind ≠ [] := by
      rw [Bool.and_eq_true] at hnarrowed
      simpa using hnarrowed.2
    exact (hwritable hsome).ofRequest?_eq hvalues _
  · exact Directive.ofRequest?_eq_none hvalues (huri.queryValues_eq_nil kind)

/-! ## The pushes of a response -/

namespace Service

/-- A push of the relation that a string names, in the cycle of a handle, with the header fields for
the node that asks for the string. -/
def PushedFor (service : Service) (request : Request) (handle : Option Handle) (found : Found)
    (call : PushedRequest) : Prop :=
  ∃ opened relation, handle = some opened ∧ service.relation? request found = some relation ∧
    call = ⟨relation.text, withCorrelation opened.cycle
      (forwardedHeaders request.headers request.directives found.node)⟩

/-- The host is asked for nothing but pushes of the relations that strings name. -/
theorem exists_calls_foldl_advance (service : Service) (request : Request) (host : Host)
    (handle : Option Handle) (founds : List Found) (before : World Record) :
    ∃ calls, (founds.foldl (service.advance request (host.pusher handle))
        ⟨[], false, before⟩).world.transport.pushes = before.transport.pushes ++ calls ∧
      ∀ call ∈ calls, ∃ found ∈ founds, service.PushedFor request handle found call := by
  refine foldl_advance_of_deliver service request (host.pusher handle)
    (P := fun _ progress => ∃ calls,
      progress.world.transport.pushes = before.transport.pushes ++ calls ∧
        ∀ call ∈ calls, ∃ found ∈ founds, service.PushedFor request handle found call)
    ⟨[], (List.append_nil _).symm, by simp⟩ founds ?_
  intro found hfound relation hrelation _ progress ⟨earlier, hearlier, hof⟩ outcome
  have houtcome : outcome = (outcome.1, outcome.2) := rfl
  obtain ⟨-, -, calls, hcalls, hcall⟩ := deliver_spec _ _ _ _ _ _ houtcome
  refine ⟨earlier ++ calls, ?_, fun call hmem => ?_⟩
  · rw [hcalls, hearlier, List.append_assoc]
  · rcases List.mem_append.mp hmem with hold | hnew
    · exact hof call hold
    · obtain ⟨-, opened, hopened, hpush⟩ := hcall call hnew
      exact ⟨found, hfound, opened, relation, hopened, hrelation, hpush⟩

/-- The host is asked for nothing but pushes of the relations of a response, each with the header fields
for the node that asks for it. -/
theorem exists_calls_apply (service : Service) (request : Request) (host : Host)
    (handle : Option Handle) (offersHints : Bool) (body : Except BodyError Bytes)
    (headers : Headers) (world : World Record) :
    ∃ calls, ((service.apply request (host.pusher handle)
        (if offersHints then some Host.sendHint else none) body headers).run
          world).2.transport.pushes = world.transport.pushes ++ calls ∧
      ∀ call ∈ calls, ∃ path found, request.tree.root.descend? path = some found.node ∧
        service.PushedFor request handle found call := by
  cases body with
  | error error => exact ⟨[], (List.append_nil _).symm, by simp⟩
  | ok received =>
      rcases request.nothing_or_document received with hunchanged | ⟨hempty, document, hdocument⟩
      · rw [apply_run_of_unchanged _ _ headers world hunchanged]
        exact ⟨[], (List.append_nil _).symm, by simp⟩
      · rw [apply_run_of_processed service _ _ headers world hempty hdocument]
        obtain ⟨calls, hcalls, hcall⟩ := exists_calls_foldl_advance service request host handle
          (request.tree.found document) world
        refine ⟨calls, (service.hinted_sendHint offersHints _ _ _).2.trans hcalls,
          fun call hmem => ?_⟩
        obtain ⟨found, hfound, hpushed⟩ := hcall call hmem
        obtain ⟨path, hpath⟩ := SelectorTree.exists_descend?_of_mem_found hfound
        exact ⟨path, found, hpath, hpushed⟩

/-- **A pushed request asks for what is below its node, and for nothing else.** Take a request and a
node of the tree of its directives. The selections below the node can be written, if there are any. In
the header fields of a request for a relation that is found there, a directive that came from header
fields asks for exactly these selections, in their order; without any, it is absent. A directive that
came from the query or was absent has no field, and there is no `te`. All other fields keep their
values. What the transport gets is that, with the identifier of the cycle as the only correlation
identifier, whatever the request had of such fields. And whatever a host answers, it is asked for
relations of the response with such header fields, and for nothing else. -/
theorem pushes_narrowed (request : Request) :
    (∀ path node, request.tree.root.descend? path = some node →
      let forwarded := forwardedHeaders request.headers request.directives node
      (∀ kind, node.subSelectors kind ≠ [] →
        (Directive.render? (node.subSelectors kind)).isSome = true) ∧
      (∀ kind, request.directives.isFromHeader kind = true →
        ∀ uri : Uri, uri.NamesNoDirective →
          (Directives.ofRequest forwarded uri).get? kind =
            if node.subSelectors kind = [] then none
            else some ⟨node.subSelectors kind, .header⟩) ∧
      (∀ kind, request.directives.isFromHeader kind = false → forwarded.getAll kind.name = []) ∧
      forwarded.getAll "te" = [] ∧
      (∀ name, name ∉ ["preload", "fields", "te"] →
        forwarded.getAll name = request.headers.getAll name) ∧
      ∀ id, (withCorrelation id forwarded).getAll correlationField =
          [Bytes.ofString (correlation id)] ∧
        ∀ name, name ≠ correlationField →
          (withCorrelation id forwarded).getAll name = forwarded.getAll name) ∧
    ∀ (service : Service) (host : Host) (handle : Option Handle) (offersHints : Bool)
      (body : Except BodyError Bytes) (headers : Headers) (world : World Record),
      ∃ calls, ((service.apply request (host.pusher handle)
          (if offersHints then some Host.sendHint else none) body headers).run
            world).2.transport.pushes = world.transport.pushes ++ calls ∧
        ∀ call ∈ calls, ∃ path found, request.tree.root.descend? path = some found.node ∧
          service.PushedFor request handle found call := by
  refine ⟨fun path node hnode => ?_, fun service host handle offersHints body headers world =>
    exists_calls_apply service request host handle offersHints body headers world⟩
  have hwritable : ∀ kind, node.subSelectors kind ≠ [] →
      Directive.Writable (node.subSelectors kind) :=
    fun kind hsome => Request.writable_subSelectors hnode hsome
  refine ⟨fun kind hsome => ?_, fun kind hheader uri huri => ?_, fun kind hnot => ?_, ?_,
    fun name hname => ?_, fun id => ⟨?_, fun name hname => ?_⟩⟩
  · rw [(hwritable kind hsome).render?_eq]
    rfl
  · rw [get?_forwardedHeaders (hwritable kind) request.headers huri, hheader]
    by_cases hnone : node.subSelectors kind = [] <;> simp [hnone]
  · rw [getAll_forwardedHeaders_name (hwritable kind), narrowedValues, hnot]
    rfl
  · rw [getAll_forwardedHeaders_of_ne (by decide) (by decide), Headers.getAll_remove_self]
  · simp only [List.mem_cons, List.not_mem_nil, or_false, not_or] at hname
    rw [getAll_forwardedHeaders_of_ne (Ne.symm hname.1) (Ne.symm hname.2.1),
      Headers.getAll_remove_of_ne (Ne.symm hname.2.2)]
  · exact Headers.getAll_insert_self _ _ _
  · exact Headers.getAll_insert_of_ne (Ne.symm hname) _ _

/-- A request for a book whose author and address are to be pushed, with a correlation identifier of its
own. The parts of the author to keep are in the query. -/
def authorRequest : Request :=
  ⟨⟨none, none, "/books/1", some "fields=%22%2Fauthor%2Fname%22"⟩,
    ⟨[("preload", Bytes.ofString "\"/author\", \"/author/address\""), ("te", Bytes.ofString "trailers"),
      ("vulcain-internal", Bytes.ofString "push-cycle-7")]⟩⟩

/-- The author is pushed with the address below it, and with the identifier of the cycle. -/
theorem pushes_narrowed_author : ∃ node,
    authorRequest.tree.root.descend? [.key "author"] = some node ∧
    let forwarded := forwardedHeaders authorRequest.headers authorRequest.directives node
    (Directives.ofRequest forwarded ⟨none, none, "/users/5", none⟩).get? .preload =
      some ⟨["/address"], .header⟩ ∧
    forwarded.getAll "fields" = [] ∧ forwarded.getAll "te" = [] ∧
    (withCorrelation 0 forwarded).getAll correlationField = [Bytes.ofString "push-cycle-0"] := by
  have hsome : (authorRequest.tree.root.descend? [.key "author"]).isSome = true := by
    decide +kernel
  have hbelow : (authorRequest.tree.root.descend? [.key "author"]).all
      (fun node => node.subSelectors .preload = ["/address"]) = true := by decide +kernel
  obtain ⟨node, hnode⟩ := Option.isSome_iff_exists.mp hsome
  rw [hnode, Option.all_some, decide_eq_true_eq] at hbelow
  obtain ⟨-, hread, habsent, hte, -, hcorrelation⟩ :=
    (pushes_narrowed authorRequest).1 [.key "author"] node hnode
  have hpreload := hread .preload (by decide +kernel) ⟨none, none, "/users/5", none⟩
    (.of_query_eq_none rfl)
  rw [hbelow, if_neg (by decide)] at hpreload
  exact ⟨node, hnode, hpreload, habsent .fields (by decide +kernel), hte, (hcorrelation 0).1⟩

end Service

end Hypermedia
