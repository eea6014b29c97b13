import Hypermedia.Proofs.NetworkPath
import Hypermedia.Proofs.Url.Rereading

/-!
# Reading a relation again

A relation of the same origin is written as its path and query. This is what a link, a document or a
push shows of it, and a client reads it relative to the response again.

* `Resolver.normal_baseOf` and `Relation.normal_of_parse` say that the URLs of relations of the same
  origin are normal.
* `Resolver.resolve_text` says that such a relation leads to the same path and query when it is read
  again, unless its path begins with an empty segment and goes on, as that of `/.//cover.json` does:
  then it is written with two slashes at its start, and is read as one that names a server.
-/

namespace Hypermedia

open Url (namesServer OnServer Normal)

namespace Resolver

/-- The URL that stands for the origin of the API is normal. -/
theorem normal_localOrigin : localOrigin.Normal :=
  ⟨⟨"", [], rfl, fun _ h => List.mem_singleton.mp h ▸ .empty⟩, fun _ h => nomatch h⟩

/-- The path of a request has no scheme. -/
theorem splitScheme?_path {text : String} {uri : Uri} (h : Uri.parse? text = some uri) :
    Url.splitScheme? (Url.clean uri.path) = none := by
  rcases Uri.path_of_parse? h with hempty | hasterisk | ⟨rest, hslash⟩
  · rw [hempty]
    decide
  · rw [hasterisk]
    decide
  · obtain ⟨kept, hclean⟩ := Url.exists_clean_of_slash hslash
    rw [hclean]
    exact Url.splitScheme?_of_isSlash rfl kept

/-- The URL that relations are relative to is normal. -/
theorem normal_baseOf {text : String} {uri : Uri} (h : Uri.parse? text = some uri) :
    (baseOf uri).Normal := by
  unfold baseOf
  split
  · next url hjoin =>
    exact Url.normal_join onServer_localOrigin normal_localOrigin (splitScheme?_path h) hjoin
  · exact normal_localOrigin

end Resolver

namespace Relation

variable {base : Url} {server : Url.Authority} {relation : Relation}

/-- A relation of the same origin was written without a scheme. -/
theorem join_of_parse {raw : String} (h : parse base raw = .ok relation)
    (hsame : relation.sameOrigin = true) :
    Url.splitScheme? (Url.clean raw) = none ∧ base.join raw = .ok relation.url := by
  unfold parse at h
  split_ifs at h
  split at h
  · obtain rfl := Except.ok.inj h
    cases hsame
  · next hnone =>
    split at h
    · next url hjoin =>
      obtain rfl := Except.ok.inj h
      refine ⟨?_, hjoin⟩
      -- With a scheme the relation would have been read on its own.
      unfold Url.join at hjoin
      dsimp only at hjoin
      split at hjoin
      · rw [hnone] at hjoin
        cases hjoin
      · assumption
    · cases h
  · cases h

/-- A relation of the same origin leads to a normal URL. -/
theorem normal_of_parse (hbase : base.OnServer server) (hnormal : base.Normal) {raw : String}
    (h : parse base raw = .ok relation) (hsame : relation.sameOrigin = true) :
    relation.url.Normal := by
  obtain ⟨hscheme, hjoin⟩ := join_of_parse h hsame
  exact Url.normal_join hbase hnormal hscheme hjoin

/-- A relation of the same origin is written as its path and query. -/
theorem text_of_sameOrigin (h : relation.sameOrigin = true) :
    relation.text = relation.url.pathAndQuery :=
  if_pos h

/-- The path and query of a normal URL are a relation of the same origin unless they name a
server. -/
theorem parse_pathAndQuery (hbase : base.OnServer server) {url : Url} (h : url.Normal)
    (hnames : namesServer url.pathAndQuery = false) :
    parse base url.pathAndQuery =
      .ok ⟨{ base with path := url.path, query := url.query, fragment := none },
        true, false, false⟩ := by
  obtain ⟨first, more, hpath, -, htext⟩ := h.exists_pathAndQuery
  have hclean := h.clean_pathAndQuery
  have hne : url.pathAndQuery.isEmpty = false := by
    rw [Bool.eq_false_iff, ne_eq, String.isEmpty_iff]
    intro hempty
    rw [hempty] at htext
    cases htext
  have hnone : Url.parse url.pathAndQuery = .error .noBase := by
    unfold Url.parse
    rw [hclean, htext, Url.splitScheme?_of_isSlash rfl]
  have hserver : OnServer { base with path := url.path, query := url.query, fragment := none }
      server :=
    ⟨hbase.scheme, hbase.authority, ⟨first, more, hpath⟩, hbase.host, hbase.port⟩
  have hslashes : ['/', '/'].isPrefixOf url.pathAndQuery.toList = false := by
    unfold namesServer at hnames
    rw [hclean, htext] at hnames
    rw [htext]
    generalize first.toList ++ Url.written more ++ (Url.marked "?" url.query).toList = rest at hnames
    cases rest with
    | nil => rfl
    | cons second rest =>
        have hsecond : '/' ≠ second := by
          rintro rfl
          cases hnames
        simp [List.isPrefixOf, hsecond]
  unfold parse
  rw [hne, hnone, Url.join_pathAndQuery hbase h hnames]
  simp [(hserver.sameOrigin_iff hbase).mpr ⟨rfl, rfl⟩, hslashes]

end Relation

namespace Resolver

/-- **What becomes of a relation that is read again.** A relation of the same origin is written so that
it names a server exactly if its path begins with an empty segment and goes on. If it is not, it is
read again as a relation of the same origin that is written in the same way, and leads to the same
path and query on the server that relations are relative to. If it is, it is not read again as such a
relation. -/
theorem resolve_text {text : String} {uri : Uri} (huri : Uri.parse? text = some uri)
    {selector raw : String} {relation : Relation}
    (h : (ofRequest none uri).resolve selector raw = .ok relation)
    (hsame : relation.sameOrigin = true) (selector' : String) :
    (namesServer relation.text = true ↔
      ∃ next more, relation.url.path = .rooted ("" :: next :: more)) ∧
    (namesServer relation.text = false → ∃ again,
      (ofRequest none uri).resolve selector' relation.text = .ok again ∧
      again.sameOrigin = true ∧ again.text = relation.text ∧
      again.url = { baseOf uri with
        path := relation.url.path, query := relation.url.query, fragment := none }) ∧
    (namesServer relation.text = true → ∀ again,
      (ofRequest none uri).resolve selector' relation.text = .ok again →
      again.sameOrigin = true → again.text ≠ relation.text) := by
  rw [resolve_ofRequest_none] at h
  simp only [resolve_ofRequest_none]
  obtain ⟨server, hbase, -⟩ := onServer_baseOf huri
  have hnormalBase := normal_baseOf huri
  have hnormal := Relation.normal_of_parse hbase hnormalBase h hsame
  rw [Relation.text_of_sameOrigin hsame]
  refine ⟨hnormal.namesServer_pathAndQuery, fun hnames => ?_, fun hnames again hagain hsame' => ?_⟩
  · exact ⟨_, Relation.parse_pathAndQuery hbase hnormal hnames, rfl, rfl, rfl⟩
  · -- Written in the same way, the relation would have as many segments as before.
    rw [Relation.text_of_sameOrigin hsame']
    intro heq
    have hfewer := Url.length_segments_join_lt hbase hnormal hnames
      (Relation.join_of_parse hagain hsame').2
    have hnormal' := Relation.normal_of_parse hbase hnormalBase hagain hsame'
    rw [← hnormal.slashes_pathAndQuery, ← hnormal'.slashes_pathAndQuery, heq] at hfewer
    exact Nat.lt_irrefl _ hfewer

/-- The author of a book, in the list of authors. -/
def authorUrl : Url :=
  { localOrigin with path := .rooted ["authors", "5"], query := some "full", fragment := some "name" }

/-- The author of a book is read again as the same resource. -/
theorem resolve_text_author :
    Uri.parse? "/books/1" = some ⟨none, none, "/books/1", none⟩ ∧
    (ofRequest none ⟨none, none, "/books/1", none⟩).resolve "/author" "../authors/5?full#name" =
      .ok ⟨authorUrl, true, false, false⟩ ∧
    ∃ again,
      (ofRequest none ⟨none, none, "/books/1", none⟩).resolve "" "/authors/5?full" = .ok again ∧
      again.sameOrigin = true ∧ again.text = "/authors/5?full" := by
  have huri : Uri.parse? "/books/1" = some ⟨none, none, "/books/1", none⟩ := by decide +kernel
  have hresolve : (ofRequest none ⟨none, none, "/books/1", none⟩).resolve "/author"
      "../authors/5?full#name" = .ok ⟨authorUrl, true, false, false⟩ := by
    decide +kernel
  have htext : (Relation.mk authorUrl true false false).text = "/authors/5?full" := by decide
  obtain ⟨-, hagain, -⟩ := resolve_text huri hresolve rfl ""
  obtain ⟨again, hread, hsame, hwritten, -⟩ := hagain (by rw [htext]; decide)
  rw [htext] at hread hwritten
  exact ⟨huri, hresolve, again, hread, hsame, hwritten⟩

/-- A relation of the same origin whose path begins with an empty segment is read again as one that
names another server. -/
theorem resolve_text_misread :
    ∃ uri relation again,
      Uri.parse? "/books/1" = some uri ∧
      (ofRequest none uri).resolve "/cover" "/.//[2001:db8::1]/cover.json" = .ok relation ∧
      relation.sameOrigin = true ∧ relation.text = "//[2001:db8::1]/cover.json" ∧
      (ofRequest none uri).resolve "/cover" relation.text = .ok again ∧
      again.sameOrigin = false := by
  refine ⟨⟨none, none, "/books/1", none⟩,
    ⟨{ localOrigin with path := .rooted ["", "[2001:db8::1]", "cover.json"] }, true, false, false⟩,
    ⟨coverUrl, false, true, false⟩, ?_, ?_, rfl, ?_, ?_, rfl⟩
  all_goals decide +kernel

end Resolver

end Hypermedia
