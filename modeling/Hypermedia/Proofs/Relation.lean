import Hypermedia.Proofs.Query
import Hypermedia.Proofs.Url.Written
import Hypermedia.Relation

/-!
# How relations are written

`Relation.isPrintable_text` says that a relation to a URL that is written as URLs are is written in
printable ASCII, and `Resolver.written_of_resolve` that a relation leads to such a URL, whatever string
named it. `Relation.withDirectives` leaves it so.
-/

namespace Hypermedia

/-! ## Relations -/

namespace Relation

variable {relation : Relation}

/-- A relation is in a class that holds the characters of URLs, if a path without structure is. -/
theorem all_text (h : relation.url.Written) {p : Char → Bool}
    (hp : ∀ c, isUrlChar c = true → p c = true)
    (hrootless : ∀ text, relation.url.path = .rootless text → text.toList.all p = true) :
    relation.text.toList.all p = true := by
  unfold text
  split_ifs
  · exact h.all_pathAndQuery hp hrootless
  · exact h.all_afterScheme hp hrootless
  · exact h.all_text hp hrootless

/-- A relation is written in printable ASCII. -/
theorem isPrintable_text (h : relation.url.Written) : isPrintable relation.text = true := by
  refine all_text h (fun _ => isPrintableChar_of_isUrlChar) fun text hpath => ?_
  have hprintable := h.path
  rw [hpath] at hprintable
  exact hprintable

/-- A relation that is read relative to a URL that was read leads to one. -/
theorem written_of_parse {base : Url} (hbase : base.Written) {raw : String}
    (h : parse base raw = .ok relation) : relation.url.Written := by
  unfold parse at h
  split_ifs at h
  split at h
  · next url hurl =>
    obtain rfl := Except.ok.inj h
    exact Url.written_parse hurl
  · split at h
    · next url hurl =>
      obtain rfl := Except.ok.inj h
      exact Url.written_join hbase hurl
    · cases h
  · cases h

/-- The directives that a relation carries are written so too. -/
theorem written_withDirectives (h : relation.url.Written) (node : Node) :
    (relation.withDirectives node).url.Written := by
  unfold withDirectives
  dsimp only
  split_ifs
  · exact h
  · refine ⟨h.scheme, h.authority, h.path, fun query hquery => ?_, h.fragment⟩
    obtain rfl := Option.some.inj hquery
    exact Query.isUrlText_render _

end Relation

/-! ## Resolving -/

namespace Resolver

/-- The URL that stands for the origin of the API is written as URLs are. -/
theorem written_localOrigin : localOrigin.Written := by
  refine ⟨rfl, fun authority h => ?_, .rooted fun segment h => ?_, .none, .none⟩
  · obtain rfl := Option.some.inj h
    refine ⟨rfl, rfl, fun host hhost => ?_⟩
    obtain rfl := Option.some.inj hhost
    decide
  · obtain rfl := List.mem_singleton.mp h
    rfl

/-- So is the URL that relations in a response are relative to. -/
theorem written_baseOf (uri : Uri) : (baseOf uri).Written := by
  unfold baseOf
  split
  · next url hurl => exact Url.written_join written_localOrigin hurl
  · exact written_localOrigin

/-- So is the URL that a request lets relations be read with. -/
theorem written_base_ofRequest (routes : Option RouteLookup) (uri : Uri) :
    (ofRequest routes uri).base.Written := by
  unfold ofRequest
  dsimp only
  exact written_baseOf uri

/-- A relation that was resolved leads to a URL that is written so. -/
theorem written_of_resolve {resolver : Resolver} (hbase : resolver.base.Written)
    {selector raw : String} {relation : Relation}
    (h : resolver.resolve selector raw = .ok relation) : relation.url.Written := by
  unfold resolve at h
  split at h
  · next made _ =>
    cases hparse : Relation.parse resolver.base made with
    | error error =>
        rw [hparse] at h
        cases h
    | ok parsed =>
        have hparsed := Relation.written_of_parse hbase hparse
        rw [hparse] at h
        obtain rfl := Except.ok.inj h
        exact hparsed
  · exact Relation.written_of_parse hbase h

end Resolver

end Hypermedia
