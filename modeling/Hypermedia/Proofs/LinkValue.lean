import Hypermedia.Proofs.Relation
import Hypermedia.Proofs.Text.Pieces

/-!
# Reading links back

A link puts its relation between angle brackets, and a reader takes the first closing one for the end.
So a relation that holds such a bracket ends its link too early, and what follows is read as
parameters and further links.

* `Relation.Accepted` are the relations that strings of documents are read as.
* `Relation.bracket_mem_text_iff` says where the bracket comes from: only a path without structure
  keeps it.
* `Relation.preloadLink_read_back_iff` says that all other relations are read back from their links.
-/

namespace Hypermedia

/-! ## What is read -/

/-- A URL that was read, by itself or relative to another one. -/
inductive Url.IsRead : Url → Prop where
  /-- A URL that begins with a scheme. -/
  | parsed {text : String} {url : Url} (h : Url.parse text = .ok url) : IsRead url
  /-- A reference. -/
  | joined {base url : Url} {reference : String} (hbase : IsRead base)
      (h : base.join reference = .ok url) : IsRead url

/-- A URL that was read is written as URLs are. -/
theorem Url.IsRead.written {url : Url} (h : url.IsRead) : url.Written := by
  induction h with
  | parsed h => exact written_parse h
  | joined _ h ih => exact written_join ih h

namespace Relation

/-- A relation that a string of a document was read as, maybe with the selections that it carries. -/
inductive Accepted : Relation → Prop where
  /-- One that was read relative to a URL. -/
  | parsed {base : Url} {raw : String} {relation : Relation} (hbase : base.IsRead)
      (h : parse base raw = .ok relation) : Accepted relation
  /-- One that was read in the response to a request, maybe with the help of a route lookup. -/
  | resolved {routes : Option RouteLookup} {uri : Uri} {selector raw : String} {relation : Relation}
      (h : (Resolver.ofRequest routes uri).resolve selector raw = .ok relation) : Accepted relation
  /-- One that carries the selections below a node. -/
  | carrying {relation : Relation} (h : Accepted relation) (node : Node) :
      Accepted (relation.withDirectives node)

variable {relation : Relation}

/-- The URL of such a relation is written as URLs are. -/
theorem Accepted.written (h : relation.Accepted) : relation.url.Written := by
  induction h with
  | parsed hbase h => exact written_of_parse hbase.written h
  | resolved h => exact Resolver.written_of_resolve (Resolver.written_base_ofRequest _ _) h
  | carrying _ node ih => exact written_withDirectives ih node

/-! ## Brackets -/

/-- The path of a relation is part of its text. -/
theorem mem_text_of_mem_path {c : Char} (h : c ∈ relation.url.path.text.toList) :
    c ∈ relation.text.toList := by
  have hpath : c ∈ relation.url.pathAndQuery.toList := by
    unfold Url.pathAndQuery
    rw [String.toList_append]
    exact List.mem_append_left _ h
  have hafter : c ∈ relation.url.afterScheme.toList := by
    unfold Url.afterScheme
    rw [String.toList_append, String.toList_append]
    exact List.mem_append_left _ (List.mem_append_right _ hpath)
  unfold text
  split_ifs
  · exact hpath
  · exact hafter
  · unfold Url.text
    rw [String.toList_append]
    exact List.mem_append_right _ hafter

/-- A relation holds a closing bracket exactly if its path has no structure and holds one. -/
theorem bracket_mem_text_iff (h : relation.Accepted) :
    '>' ∈ relation.text.toList ↔
      ∃ text, relation.url.path = .rootless text ∧ '>' ∈ text.toList := by
  constructor
  · intro hin
    by_contra hnone
    -- All other parts are written with characters of URLs, and the bracket is none of them.
    have hall : relation.text.toList.all (· ≠ '>') = true := by
      refine all_text h.written (fun c hc => decide_eq_true (ne_of_isUrlChar hc)) fun text hpath => ?_
      rw [List.all_eq_true]
      rintro c hc
      rw [decide_eq_true_eq]
      rintro rfl
      exact hnone ⟨text, hpath, hc⟩
    have hne := List.all_eq_true.mp hall '>' hin
    simp at hne
  · rintro ⟨text, hpath, hin⟩
    refine mem_text_of_mem_path ?_
    rw [hpath]
    exact hin

/-! ## Links -/

/-- A link without a base URL: the relation between brackets, and what follows. -/
theorem toList_preloadLink (relation : Relation) (nopush : Bool) :
    (relation.preloadLink none nopush).toList = ('<' :: relation.text.toList) ++ '>' ::
      ("; rel=preload; as=fetch".toList ++ if nopush then "; nopush".toList else []) := by
  unfold preloadLink
  cases nopush <;> simp

/-- **A link is read back**, if the relation has no path without structure that holds a closing
bracket, and only then: what stands before the first closing bracket is an opening one and the relation, and
what follows are the parameters of the link. In any case the link is printable. -/
theorem preloadLink_read_back_iff (h : relation.Accepted) (nopush : Bool) :
    (Text.cutAt '>' (relation.preloadLink none nopush).toList =
        ('<' :: relation.text.toList,
          some ("; rel=preload; as=fetch".toList ++ if nopush then "; nopush".toList else [])) ↔
      ∀ text, relation.url.path = .rootless text → '>' ∉ text.toList) ∧
    isPrintable (relation.preloadLink none nopush) = true := by
  have hbracket := bracket_mem_text_iff h
  constructor
  · rw [toList_preloadLink]
    constructor
    · intro hcut text hpath hin
      have hnot := Text.not_mem_cutAt '>' (('<' :: relation.text.toList) ++ '>' ::
        ("; rel=preload; as=fetch".toList ++ if nopush then "; nopush".toList else []))
      rw [hcut] at hnot
      exact hnot (List.mem_cons_of_mem _ (hbracket.mpr ⟨text, hpath, hin⟩))
    · intro hnone
      have hnot : '>' ∉ '<' :: relation.text.toList := by
        rw [List.mem_cons, not_or, hbracket]
        exact ⟨by decide, fun ⟨text, hpath, hin⟩ => hnone text hpath hin⟩
      rw [Text.cutAt_append_of_not_mem hnot, Text.cutAt, if_pos rfl, List.append_nil]
  · unfold preloadLink
    have hend : isPrintable (if nopush then "; nopush" else "") = true := by
      cases nopush <;> rfl
    simp only [isPrintable_append, isPrintable_text h.written, hend]
    rfl

/-- The author of a book, in French. -/
def frenchAuthor : Relation :=
  ⟨{ Resolver.localOrigin with path := .rooted ["users", "5"], query := some "lang=fr" },
    true, false, false⟩

/-- The link of an author is read back. -/
theorem preloadLink_read_back_author :
    (Resolver.ofRequest none ⟨none, none, "/books/1", none⟩).resolve "/author" "/users/5?lang=fr" =
      .ok frenchAuthor ∧
    Text.cutAt '>' (frenchAuthor.preloadLink none true).toList =
      ("</users/5?lang=fr".toList, some "; rel=preload; as=fetch; nopush".toList) := by
  have hresolve : (Resolver.ofRequest none ⟨none, none, "/books/1", none⟩).resolve "/author"
      "/users/5?lang=fr" = .ok frenchAuthor := by decide +kernel
  have hread := (preloadLink_read_back_iff (.resolved hresolve) true).1.mpr fun text hpath =>
    nomatch hpath
  exact ⟨hresolve, hread.trans (by decide)⟩

/-- A string of a document can end its link and begin another one: that of `x:>, </y` is
`<x:>, </y>; rel=preload; as=fetch`. -/
theorem not_forall_preloadLink_read_back :
    ¬∀ relation : Relation, relation.Accepted → ∀ nopush,
      Text.cutAt '>' (relation.preloadLink none nopush).toList =
        ('<' :: relation.text.toList,
          some ("; rel=preload; as=fetch".toList ++ if nopush then "; nopush".toList else [])) := by
  intro hread
  have hresolve : (Resolver.ofRequest none ⟨none, none, "/books/1", none⟩).resolve "/rel" "x:>, </y" =
      .ok ⟨⟨"x", none, .rootless ">, </y", none, none⟩, false, false, false⟩ := by decide +kernel
  have hlink := congrArg Prod.fst (hread _ (.resolved hresolve) false)
  have hfirst : (Text.cutAt '>' ((⟨⟨"x", none, .rootless ">, </y", none, none⟩, false, false,
      false⟩ : Relation).preloadLink none false).toList).1 = "<x:".toList := by decide
  rw [hfirst] at hlink
  revert hlink
  decide

end Relation

end Hypermedia
