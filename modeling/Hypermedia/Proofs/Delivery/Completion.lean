import Hypermedia.Proofs.Push.Completion
import Hypermedia.Proofs.Relation
import Hypermedia.Proofs.Rendering

/-!
# Pushes of relations are completed

A relation of the same origin is pushed as it is written. The request that comes back asks for the same
path and query, byte for byte, so that it is the follow-up of this very push.

* `Uri.pathAndQuery?_of_parse?` says which path and query a target without a fragment asks for.
* `Url.Normal.withQueryPairs` and `Relation.normal_of_resolve` say that the URL of a relation is normal,
  whatever string or route lookup it was made of and whichever directives it carries.
* `Relation.targetOf_of_resolve` says that what such a relation is written as is what it asks for.
* `Relation.delivered_push_completes` is what follows for the pushes of a connection.
-/

namespace Hypermedia

open Push Push.Traffic

/-! ## What a target asks for -/

namespace Uri

/-- A path with a query is kept as it was written. -/
theorem rawPathAndQuery_of_readPathAndQuery? {s : List Char} {path : String} {query : Option String}
    (h : readPathAndQuery? s = some (path, query)) (hfragment : '#' ∉ s)
    (scheme authority : Option String) :
    (rawPathAndQuery ⟨scheme, authority, path, query⟩).toList = s := by
  unfold readPathAndQuery? at h
  dsimp only at h
  rw [Text.cutAt_of_not_mem hfragment] at h
  split_ifs at h
  obtain ⟨rfl, rfl⟩ := Prod.mk.inj (Option.some.inj h)
  have hjoin := Text.append_cutAt '?' s
  unfold rawPathAndQuery
  cases hquery : (Text.cutAt '?' s).2 with
  | none =>
      rw [hquery, Option.elim_none, List.append_nil] at hjoin
      rw [Option.map_none]
      exact String.toList_ofList.trans hjoin
  | some query =>
      rw [hquery, Option.elim_some] at hjoin
      simpa using hjoin

/-- A target that starts with a slash and has no fragment asks for its own path and query. -/
theorem pathAndQuery?_of_parse? {text : String} {uri : Uri} (h : parse? text = some uri)
    {rest : List Char} (hslash : text.toList = '/' :: rest) (hfragment : '#' ∉ text.toList) :
    uri.pathAndQuery? = some text := by
  unfold parse? at h
  rw [hslash] at h hfragment
  split_ifs at h
  obtain ⟨⟨path, query⟩, hread, rfl⟩ := Option.map_eq_some_iff.mp h
  have hraw := rawPathAndQuery_of_readPathAndQuery? hread hfragment none none
  have htext : rawPathAndQuery ⟨none, none, path, query⟩ = text :=
    String.toList_injective (hraw.trans hslash.symm)
  have hne : text.isEmpty = false := by
    rw [Bool.eq_false_iff, ne_eq, String.isEmpty_iff]
    rintro rfl
    cases hslash
  unfold pathAndQuery?
  rw [htext, hne]
  rfl

end Uri

/-! ## Normal URLs -/

namespace Query

/-- The characters that a query is written with besides those that stand for themselves. -/
def signs : List Char :=
  "+=&".toList ++ Percent.signs

/-- A name or value is written with these signs. -/
theorem all_encodeComponent_signs (text : String) :
    (encodeComponent text).all (fun c => isPlain c || signs.contains c) = true := by
  unfold encodeComponent
  rw [List.all_flatMap, List.all_eq_true]
  intro c _
  rw [encodeChar, Percent.encodeChar, Percent.encodeBytes]
  split_ifs with hblank hplain
  · decide
  · simp [hplain]
  · rw [List.all_flatMap, List.all_eq_true]
    refine fun b _ => List.all_eq_true.mpr fun other hother => ?_
    have hsign := List.mem_append_right "+=&".toList (Percent.mem_signs_of_mem_encodeByte hother)
    rw [Bool.or_eq_true, List.contains_iff_mem]
    exact .inr hsign

/-- A query that is written from pairs consists of them. -/
theorem isPlain_or_mem_signs {pairs : List (String × String)} {c : Char}
    (h : c ∈ (render pairs).toList) : isPlain c = true ∨ c ∈ signs := by
  have hall : (render pairs).toList.all (fun c => isPlain c || signs.contains c) = true := by
    rw [render, String.toList_ofList]
    refine all_intercalate (by decide) fun piece hpiece => ?_
    obtain ⟨pair, -, rfl⟩ := List.mem_map.mp hpiece
    rw [encodePair, List.all_append, List.all_cons, all_encodeComponent_signs,
      all_encodeComponent_signs]
    decide
  have hc := List.all_eq_true.mp hall c h
  rwa [Bool.or_eq_true, List.contains_iff_mem] at hc

end Query

namespace Url

/-- The characters of a query that is written from pairs stand for themselves. -/
theorem isQueryChar_of_mem_render {pairs : List (String × String)} {c : Char}
    (h : c ∈ (Query.render pairs).toList) : isQueryChar .web c = true := by
  have hsigns : Query.signs.all (isQueryChar .web) = true := by decide
  rcases Query.isPlain_or_mem_signs h with hplain | hsign
  · have hspecial : (" \"#<>'".toList.all fun sign => !Query.isPlain sign) = true := by decide
    have hprintable := isPrintableChar_iff.mp
      (isPrintableChar_of_isUrlChar (Query.isUrlChar_of_isPlain hplain))
    have hnot : c ∉ " \"#<>'".toList := fun hin => by
      have hsign := List.all_eq_true.mp hspecial c hin
      rw [hplain] at hsign
      cases hsign
    have hrange : Host.isPrintable c = true := by
      simp only [Host.isPrintable, Bool.and_eq_true, decide_eq_true_eq]
      omega
    change (Host.isPrintable c && !" \"#<>'".toList.contains c) = true
    rw [hrange, Bool.true_and, Bool.not_eq_true', List.contains_eq_mem]
    exact decide_eq_false hnot
  · exact List.all_eq_true.mp hsigns c hsign

/-- A normal URL stays normal with other pairs as its query. -/
theorem Normal.withQueryPairs {url : Url} (h : url.Normal) (pairs : List (String × String)) :
    (url.withQueryPairs pairs).Normal := by
  refine ⟨h.path, fun query hquery c hc => ?_⟩
  obtain rfl := Option.some.inj hquery
  exact isQueryChar_of_mem_render hc

/-- The path and query of a normal URL have no fragment. -/
theorem Normal.hash_not_mem_pathAndQuery {url : Url} (h : url.Normal) :
    '#' ∉ url.pathAndQuery.toList := by
  obtain ⟨first, more, hpath, hplain, -⟩ := h.exists_pathAndQuery
  rw [pathAndQuery, String.toList_append, hpath, toList_text_rooted, List.mem_append]
  rintro (hin | hin)
  · have hne : ∀ c ∈ written (first :: more), c ≠ '#' :=
      forall_mem_written (by decide) (fun c hc heq => absurd hc (heq ▸ by decide)) hplain
    exact hne '#' hin rfl
  · cases hquery : url.query with
    | none =>
        rw [hquery] at hin
        cases hin
    | some query =>
        rw [hquery, marked, String.toList_append] at hin
        rcases List.mem_append.mp hin with hmark | hin
        · exact absurd (List.mem_singleton.mp hmark) (by decide)
        · exact ne_of_isQueryChar (h.query query hquery '#' hin) rfl

end Url

/-! ## Relations of the same origin -/

namespace Relation

/-- A relation of the same origin leads to a normal URL, whatever string or route lookup it was made
of. -/
theorem normal_of_resolve {request : String} {uri : Uri} (huri : Uri.parse? request = some uri)
    {routes : Option RouteLookup} {selector raw : String} {relation : Relation}
    (h : (Resolver.ofRequest routes uri).resolve selector raw = .ok relation)
    (hsame : relation.sameOrigin = true) : relation.url.Normal := by
  obtain ⟨server, hbase, -⟩ := Resolver.onServer_baseOf huri
  have hparse {raw : String} {relation : Relation} : parse (Resolver.baseOf uri) raw = .ok relation →
      relation.sameOrigin = true → relation.url.Normal :=
    normal_of_parse hbase (Resolver.normal_baseOf huri)
  unfold Resolver.resolve Resolver.ofRequest at h
  dsimp only at h
  split at h
  · next made _ =>
    cases hmade : parse (Resolver.baseOf uri) made with
    | error error =>
        rw [hmade] at h
        cases h
    | ok parsed =>
        rw [hmade] at h
        obtain rfl := Except.ok.inj h
        have hparsed : parsed.url.Normal := hparse hmade hsame
        exact hparsed
  · exact hparse h hsame

/-- Directives that a relation carries leave it normal. -/
theorem normal_withDirectives {relation : Relation} (h : relation.url.Normal) (node : Node) :
    (relation.withDirectives node).url.Normal := by
  unfold withDirectives
  dsimp only
  split_ifs
  · exact h
  · exact h.withQueryPairs _

@[simp] theorem sameOrigin_withDirectives (relation : Relation) (node : Node) :
    (relation.withDirectives node).sameOrigin = relation.sameOrigin := by
  unfold withDirectives
  dsimp only
  split_ifs <;> rfl

/-- A relation as it was resolved, or with the directives of some node. -/
def Shows (relation shown : Relation) : Prop :=
  shown = relation ∨ ∃ node, shown = relation.withDirectives node

/-- A relation of the same origin asks for what it is written as, byte for byte. -/
theorem targetOf_of_resolve {request : String} {uri : Uri} (huri : Uri.parse? request = some uri)
    {routes : Option RouteLookup} {selector raw : String} {relation shown : Relation}
    (h : (Resolver.ofRequest routes uri).resolve selector raw = .ok relation)
    (hsame : relation.sameOrigin = true) (hshown : relation.Shows shown) {target : Uri}
    (htarget : Uri.parse? shown.text = some target) : Ledger.targetOf target = shown.text := by
  have hnormal : shown.url.Normal ∧ shown.sameOrigin = true := by
    have hrelation := normal_of_resolve huri h hsame
    rcases hshown with rfl | ⟨node, rfl⟩
    · exact ⟨hrelation, hsame⟩
    · exact ⟨normal_withDirectives hrelation node, (sameOrigin_withDirectives _ node).trans hsame⟩
  rw [text_of_sameOrigin hnormal.2] at htarget ⊢
  obtain ⟨first, more, -, -, hslash⟩ := hnormal.1.exists_pathAndQuery
  rw [Ledger.targetOf, Uri.pathAndQuery?_of_parse? htarget hslash
    hnormal.1.hash_not_mem_pathAndQuery]
  rfl

/-- **A delivered push completes its own entry.** Let a relation of the same origin, as it was resolved
or with directives, be pushed through a handle of a live cycle, and let what it is written as be a
request target. Then this target asks for what was pushed, byte for byte. Right after the push it is in
flight, and its cycle is live. At any time when the cycle is live, the request that the transport was
given gets the handle of a follow-up of the same cycle. The release of this handle, at once or later,
takes the entry of the push out of flight, if it is still there, and no other one, so that one push less
is outstanding. -/
theorem delivered_push_completes {request : String} {uri : Uri}
    (huri : Uri.parse? request = some uri) {routes : Option RouteLookup} {selector raw : String}
    {relation shown : Relation}
    (hresolve : (Resolver.ofRequest routes uri).resolve selector raw = .ok relation)
    (hsame : relation.sameOrigin = true) (hshown : relation.Shows shown) {target : Uri}
    (htarget : Uri.parse? shown.text = some target) {maxPushes : Option Nat} {events : List Event}
    {handle : Handle} (hhandle : handle ∈ (run maxPushes events).handles)
    (hlive : handle.cycle ∈ (run maxPushes events).ledger.live) {entered : Ledger}
    (hreserve : (run maxPushes events).ledger.reserve handle.cycle shown.text = .ok entered)
    (headers : Headers) :
    Ledger.targetOf target = shown.text ∧
    run maxPushes (events ++ [.push handle shown.text headers]) =
      { run maxPushes events with
        ledger := entered
        calls := ⟨handle, shown.text, withCorrelation handle.cycle headers, none⟩ ::
          (run maxPushes events).calls } ∧
    handle.cycle ∈ entered.live ∧ shown.text ∈ entered.inFlight handle.cycle ∧
    ∀ between before canPush,
      before = run maxPushes (events ++ .push handle shown.text headers :: between) →
      handle.cycle ∈ before.ledger.live →
      ∃ followUp opened,
        before.ledger.handleFor (withCorrelation handle.cycle headers) target canPush =
          some (followUp, opened) ∧
        before.ledger.Joined opened followUp handle.cycle shown.text ∧
        ∀ more last,
          last = run maxPushes (events ++ .push handle shown.text headers :: between ++
            .arrive (withCorrelation handle.cycle headers) target canPush :: more) →
          shown.text ∈ last.ledger.inFlight handle.cycle →
          last.ledger.isReleased followUp = false →
          last.ledger.Completes (last.ledger.release followUp) handle.cycle shown.text := by
  have hasks := targetOf_of_resolve huri hresolve hsame hshown htarget
  refine ⟨hasks, run_push hhandle hreserve headers, ?_, ?_, ?_⟩
  · obtain ⟨-, -, hentered⟩ := Ledger.reserve_eq_ok hreserve
    rwa [hentered]
  · exact (Ledger.mem_inFlight_reserve hreserve).mpr (.inl ⟨rfl, rfl⟩)
  · rintro between before canPush rfl hlive
    have hjoined := joined_of_run hlive headers target canPush
    rwa [hasks] at hjoined

/-- A book is asked for, and its relations may be pushed. -/
def bookRequest : List Event :=
  [.arrive .empty ⟨none, none, "/books/1", none⟩ true]

/-- The author of the book is pushed, comes back and completes its push. -/
theorem delivered_author_completes :
    Uri.parse? "/books/1" = some ⟨none, none, "/books/1", none⟩ ∧
    (Resolver.ofRequest none ⟨none, none, "/books/1", none⟩).resolve "/author"
      "../authors/5?full#name" = .ok ⟨Resolver.authorUrl, true, false, false⟩ ∧
    Uri.parse? "/authors/5?full" = some ⟨none, none, "/authors/5", some "full"⟩ ∧
    ∃ entered followUp opened,
      (run none bookRequest).ledger.reserve 0 "/authors/5?full" = .ok entered ∧
      entered.handleFor (withCorrelation 0 .empty) ⟨none, none, "/authors/5", some "full"⟩ true =
        some (followUp, opened) ∧
      opened.Completes (opened.release followUp) 0 "/authors/5?full" := by
  have huri : Uri.parse? "/books/1" = some ⟨none, none, "/books/1", none⟩ := by decide +kernel
  have hresolve : (Resolver.ofRequest none ⟨none, none, "/books/1", none⟩).resolve "/author"
      "../authors/5?full#name" = .ok ⟨Resolver.authorUrl, true, false, false⟩ := by
    decide +kernel
  have htext : (Relation.mk Resolver.authorUrl true false false).text = "/authors/5?full" := by
    decide
  have htarget : Uri.parse? "/authors/5?full" = some ⟨none, none, "/authors/5", some "full"⟩ := by
    decide +kernel
  have hhandle : (⟨0, 0, .origin⟩ : Handle) ∈ (run none bookRequest).handles := List.mem_cons_self
  obtain ⟨entered, hreserve⟩ : ∃ entered,
      (run none bookRequest).ledger.reserve 0 "/authors/5?full" = .ok entered :=
    Ledger.exists_reserve_eq_ok_iff.mpr ⟨List.not_mem_nil, nofun⟩
  rw [← htext] at htarget hreserve
  obtain ⟨-, hpushed, hlive, hflight, hback⟩ := delivered_push_completes huri hresolve rfl (.inl rfl)
    htarget hhandle List.mem_cons_self hreserve .empty
  have hentered := congrArg Traffic.ledger hpushed
  obtain ⟨followUp, opened, hopen, hjoined, -⟩ := hback [] _ true rfl (hentered ▸ hlive)
  have hcompletes := hjoined.completes (hentered ▸ hflight)
  rw [hentered] at hopen
  rw [htext] at htarget hreserve hcompletes
  exact ⟨huri, hresolve, htarget, entered, followUp, opened, hreserve, hopen, hcompletes⟩

end Relation

end Hypermedia
