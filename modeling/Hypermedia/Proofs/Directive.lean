import Mathlib.Data.List.Basic
import Hypermedia.Directive
import Hypermedia.Proofs.Query
import Hypermedia.Proofs.StructuredField

/-!
# Directives are read as they were written

A list of pointers is written as the value of a directive. Several values of one directive, in
header fields or in parameters of the query, are read as one list.

* `Directive.text` is the written list; `Directive.render?_eq_none_iff` says which lists have none.
* `Directive.parsePaths?_intercalate` reads several written lists as one, and so does
  `Directive.ofValues?_texts`.
* `Directive.headerLines_eq` and `Directive.queryValues_eq` find the written lists in header fields
  and in a query.
* `Directives.ofRequest_of_written` puts these together.
* `Directives.isPrintable_of_mem_paths` says that what is read could have been written.
-/

namespace Hypermedia

namespace StructuredField

/-- Lists that are written one after the other with a comma between them are one list. -/
theorem written_append {items more : List String} (hitems : items ≠ []) (hmore : more ≠ []) :
    written (items ++ more) = written items ++ (", ".toList ++ written more) := by
  induction items with
  | nil => exact absurd rfl hitems
  | cons s rest ih =>
      cases rest with
      | nil =>
          obtain ⟨next, others, rfl⟩ := List.exists_cons_of_ne_nil hmore
          rw [List.singleton_append, written_cons_cons]
          simp [written]
      | cons next others =>
          rw [List.cons_append, List.cons_append, written_cons_cons, ← List.cons_append,
            ih (List.cons_ne_nil _ _), written_cons_cons, List.append_assoc]
          rfl

end StructuredField

namespace Directive

open StructuredField

/-! ## Written lists -/

/-- A list of pointers as the value of a directive. -/
def text (paths : List String) : String :=
  .ofList (written paths)

/-- A list of pointers that can be written. -/
structure Writable (paths : List String) : Prop where
  /-- There are pointers. -/
  ne_nil : paths ≠ []
  /-- They are printable. -/
  isPrintable : ∀ path ∈ paths, isPrintable path = true

/-- A list cannot be written exactly if it is empty or one of its pointers is not printable. -/
theorem render?_eq_none_iff {paths : List String} :
    render? paths = none ↔ paths = [] ∨ ∃ path ∈ paths, isPrintable path = false := by
  unfold render?
  cases paths with
  | nil => exact iff_of_true rfl (.inl rfl)
  | cons path rest =>
      rw [List.isEmpty_cons, if_neg Bool.false_ne_true, renderStrings?_eq_none_iff]
      exact ⟨.inr, fun h => h.resolve_left (List.cons_ne_nil _ _)⟩

/-- What a list is written as. -/
theorem Writable.render?_eq {paths : List String} (h : Writable paths) :
    render? paths = some (text paths) := by
  unfold render?
  rw [if_neg (by simpa using h.ne_nil), renderStrings?_eq_some h.isPrintable]
  rfl

/-- A written list is printable. -/
theorem Writable.isPrintable_text {paths : List String} (h : Writable paths) :
    Hypermedia.isPrintable (text paths) = true := by
  unfold text
  rw [isPrintable_ofList]
  exact all_written h.isPrintable

/-! ## Reading -/

/-- A written list is read back. -/
theorem Writable.parsePaths?_text {paths : List String} (h : Writable paths) :
    parsePaths? (text paths) = some paths := by
  unfold parsePaths? text
  rw [parseList?_written h.ne_nil h.isPrintable, Option.map_some, List.filterMap_map]
  exact congrArg some (List.filterMap_some)

/-- Several lists are one list. -/
theorem Writable.flatten {lists : List (List String)} (hne : lists ≠ [])
    (h : ∀ paths ∈ lists, Writable paths) : Writable lists.flatten where
  ne_nil := by
    obtain ⟨paths, rest, rfl⟩ := List.exists_cons_of_ne_nil hne
    rw [List.flatten_cons]
    exact List.append_ne_nil_of_left_ne_nil (h paths List.mem_cons_self).ne_nil _
  isPrintable := by
    intro path hpath
    obtain ⟨paths, hpaths, hmem⟩ := List.mem_flatten.mp hpath
    exact (h paths hpaths).isPrintable path hmem

/-- Several written lists with commas between them are written like one list. -/
theorem intercalate_text {lists : List (List String)} (hne : lists ≠ [])
    (h : ∀ paths ∈ lists, Writable paths) :
    ", ".intercalate (lists.map text) = text lists.flatten := by
  have htext : ∀ paths, (text paths).toList = written paths := fun _ => String.toList_ofList
  rw [← String.toList_inj, String.toList_intercalate, List.map_map, htext]
  simp only [Function.comp_def, htext]
  induction lists with
  | nil => exact absurd rfl hne
  | cons paths rest ih =>
      cases rest with
      | nil => simp
      | cons next more =>
          have hrest : ∀ paths ∈ next :: more, Writable paths :=
            fun paths hpaths => h paths (List.mem_cons_of_mem _ hpaths)
          rw [List.flatten_cons, written_append (h paths List.mem_cons_self).ne_nil
            (Writable.flatten (List.cons_ne_nil _ _) hrest).ne_nil,
            ← ih (List.cons_ne_nil _ _) hrest, List.map_cons, List.map_cons,
            List.intercalate_cons_cons, List.append_assoc, ← List.map_cons]

/-- Several values of a directive are read as one list. -/
theorem ofValues?_texts {lists : List (List String)} (hne : lists ≠ [])
    (h : ∀ paths ∈ lists, Writable paths) (source : Source) :
    ofValues? source (lists.map text) = some ⟨lists.flatten, source⟩ := by
  unfold ofValues?
  rw [if_neg (by simpa using hne), intercalate_text hne h,
    (Writable.flatten hne h).parsePaths?_text]
  rfl

/-! ## Finding the values -/

/-- Written lists are found in header fields. -/
theorem headerLines_eq {kind : Kind} {headers : Headers} {texts : List String}
    (hprintable : ∀ text ∈ texts, Hypermedia.isPrintable text = true)
    (h : headers.getAll kind.name = texts.map Bytes.ofString) :
    headerLines kind headers = texts := by
  unfold headerLines
  rw [h, List.filterMap_map]
  exact (List.filterMap_congr fun text htext => readable?_ofString (hprintable text htext)).trans
    List.filterMap_some

/-- Encoded values are found in a query, however the names of the parameters are written. -/
theorem queryValues_eq {kind : Kind} {query : String} {texts : List String}
    (h : ((Query.pieces query).filter (Query.nameOf · = kind.name)).map Query.writtenValue? =
      texts.map fun text => some (Query.encodeComponent text)) :
    queryValues kind query = texts := by
  let value := fun written : Option (List Char) =>
    Query.decodeComponent ((written.map Utf8.encode).getD [])
  -- A parameter that is empty has no name, so that it makes no difference that it is skipped.
  have hnamed : ∀ piece ∈ Query.pieces query,
      (decide (Query.nameOf piece = kind.name) && !piece.isEmpty) =
        decide (Query.nameOf piece = kind.name) := by
    intro piece _
    cases piece with
    | nil => cases kind <;> rfl
    | cons c rest => exact Bool.and_true _
  have hvalues : queryValues kind query =
      (((Query.pieces query).filter (Query.nameOf · = kind.name)).map Query.writtenValue?).map
        value := by
    unfold queryValues
    rw [Query.pairs_eq, List.filter_map, List.map_map, List.filter_filter, List.map_map]
    simp only [Function.comp_def, Query.pair_encode]
    rw [List.filter_congr hnamed]
  rw [hvalues, h, List.map_map]
  exact (List.map_congr_left fun text _ => Query.decodeComponent_encodeComponent text).trans
    (List.map_id _)

/-! ## Pointers that are read -/

/-- The pointers that a list writes are printable. -/
theorem isPrintable_of_parsePaths? {list : String} {paths : List String}
    (h : parsePaths? list = some paths) : ∀ path ∈ paths, Hypermedia.isPrintable path = true := by
  intro path hpath
  obtain ⟨members, hmembers, rfl⟩ := Option.map_eq_some_iff.mp h
  obtain ⟨member, hmember, hread⟩ := List.mem_filterMap.mp hpath
  split at hread
  · obtain rfl := Option.some.inj hread
    exact isPrintable_of_parseList? hmembers hmember
  · cases hread

/-- The pointers of a directive that is read are printable. -/
theorem isPrintable_of_ofValues? {source : Source} {values : List String} {directive : Directive}
    (h : ofValues? source values = some directive) :
    ∀ path ∈ directive.paths, Hypermedia.isPrintable path = true := by
  unfold ofValues? at h
  split_ifs at h
  obtain ⟨paths, hpaths, rfl⟩ := Option.map_eq_some_iff.mp h
  exact isPrintable_of_parsePaths? hpaths

/-- Without values for it in header fields or in the query there is no directive. -/
theorem ofRequest?_eq_none {kind : Kind} {headers : Headers} {query : String}
    (hheaders : headers.getAll kind.name = []) (hquery : queryValues kind query = []) :
    ofRequest? kind headers query = none := by
  unfold ofRequest? headerLines
  rw [hheaders, hquery]
  rfl

/-- A list that is written in a header field is read back, whatever the query says. -/
theorem Writable.ofRequest?_eq {paths : List String} (h : Writable paths) {kind : Kind}
    {headers : Headers} (hheaders : headers.getAll kind.name = [Bytes.ofString (text paths)])
    (query : String) : ofRequest? kind headers query = some ⟨paths, .header⟩ := by
  have hlines : headerLines kind headers = [paths].map text := by
    refine headerLines_eq (fun line hline => ?_) hheaders
    rw [List.mem_singleton.mp hline]
    exact h.isPrintable_text
  have hread := ofValues?_texts (List.cons_ne_nil paths [])
    (fun other hother => List.mem_singleton.mp hother ▸ h) .header
  rw [ofRequest?, hlines, hread, List.flatten_singleton, Option.some_or]

end Directive

namespace Directives

open Directive

/-- One of the directives of a request. -/
theorem get?_ofRequest (headers : Headers) (uri : Uri) (kind : Kind) :
    (ofRequest headers uri).get? kind = ofRequest? kind headers (uri.query.getD "") := by
  cases kind <;> rfl

/-- The pointers of a request are printable, wherever they came from. -/
theorem isPrintable_of_mem_paths {headers : Headers} {uri : Uri} {kind : Kind} {path : String}
    (h : path ∈ (ofRequest headers uri).paths kind) : Hypermedia.isPrintable path = true := by
  unfold paths at h
  rw [get?_ofRequest] at h
  cases hread : ofRequest? kind headers (uri.query.getD "") with
  | none =>
      rw [hread] at h
      cases h
  | some directive =>
      rw [hread] at h
      rcases Option.or_eq_some_iff.mp hread with hheader | ⟨-, hquery⟩
      · exact isPrintable_of_ofValues? hheader path h
      · exact isPrintable_of_ofValues? hquery path h

/-- **Lists of pointers are read as they were written.** A list has no written form exactly if it is
empty or one of its pointers has a character that is not printable ASCII. Lists that have one are
read as one list, in their order: from the header fields of a directive, whatever the query says,
and without such fields from the parameters of that name, whatever other parameters stand between
them. -/
theorem ofRequest_of_written :
    (∀ paths, render? paths = none ↔
      paths = [] ∨ ∃ path ∈ paths, ∃ c ∈ path.toList, ¬(0x20 ≤ c.toNat ∧ c.toNat ≤ 0x7E)) ∧
    ∀ (kind : Kind) (lists : List (List String)), lists ≠ [] →
      (∀ paths ∈ lists, paths ≠ [] ∧
        ∀ path ∈ paths, ∀ c ∈ path.toList, 0x20 ≤ c.toNat ∧ c.toNat ≤ 0x7E) →
      ∃ texts : List String, lists.map render? = texts.map some ∧
        (∀ headers uri, headers.getAll kind.name = texts.map Bytes.ofString →
          (ofRequest headers uri).get? kind = some ⟨lists.flatten, .header⟩) ∧
        ∀ headers uri query, headers.getAll kind.name = [] → uri.query = some query →
          ((Query.pieces query).filter (Query.nameOf · = kind.name)).map Query.writtenValue? =
            (texts.map fun text => some (Query.encodeComponent text)) →
          (ofRequest headers uri).get? kind = some ⟨lists.flatten, .query⟩ := by
  refine ⟨fun paths => ?_, fun kind lists hne hlists => ?_⟩
  · rw [render?_eq_none_iff]
    simp only [← Bool.not_eq_true, isPrintable_iff, not_forall, exists_prop]
  · have hwritable : ∀ paths ∈ lists, Writable paths := fun paths hpaths =>
      ⟨(hlists paths hpaths).1, fun path hpath =>
        isPrintable_iff.mpr ((hlists paths hpaths).2 path hpath)⟩
    refine ⟨lists.map text, ?_, fun headers uri hheaders => ?_,
      fun headers uri query hheaders hquery hparameters => ?_⟩
    · rw [List.map_map]
      exact List.map_congr_left fun paths hpaths => (hwritable paths hpaths).render?_eq
    · have hlines : headerLines kind headers = lists.map text := by
        refine headerLines_eq (fun line hline => ?_) hheaders
        obtain ⟨paths, hpaths, rfl⟩ := List.mem_map.mp hline
        exact (hwritable paths hpaths).isPrintable_text
      rw [get?_ofRequest, ofRequest?, hlines, ofValues?_texts hne hwritable, Option.some_or]
    · have hlines : headerLines kind headers = [] := by
        unfold headerLines
        rw [hheaders, List.filterMap_nil]
      rw [get?_ofRequest, ofRequest?, hlines, hquery, Option.getD_some, queryValues_eq hparameters,
        ofValues?_texts hne hwritable]
      rfl

/-- Pointers with the marks that structured lists and queries give a meaning to. -/
theorem ofRequest_of_written_marks :
    (ofRequest ⟨[("preload", Bytes.ofString "\"/a,\\\"b\\\"\", \"/c\\\\d\""),
        ("preload", Bytes.ofString "\"/e%20&f+g\"")]⟩ ⟨none, none, "/books", none⟩).get? .preload =
      some ⟨["/a,\"b\"", "/c\\d", "/e%20&f+g"], .header⟩ ∧
    (ofRequest .empty ⟨none, none, "/books", some ("preload=%22%2Fa%2C%5C%22b%5C%22%22%2C+" ++
        "%22%2Fc%5C%5Cd%22&page=2&preload=%22%2Fe%2520%26f%2Bg%22")⟩).get? .preload =
      some ⟨["/a,\"b\"", "/c\\d", "/e%20&f+g"], .query⟩ := by
  have hlists : ∀ paths ∈ [["/a,\"b\"", "/c\\d"], ["/e%20&f+g"]],
      paths ≠ [] ∧ ∀ path ∈ paths, isPrintable path = true := by decide
  obtain ⟨texts, hrender, hheader, hquery⟩ :=
    ofRequest_of_written.2 .preload [["/a,\"b\"", "/c\\d"], ["/e%20&f+g"]] (by decide)
      fun paths hpaths => (hlists paths hpaths).imp_right fun hall path hpath =>
        isPrintable_iff.mp (hall path hpath)
  have htexts : texts = ["\"/a,\\\"b\\\"\", \"/c\\\\d\"", "\"/e%20&f+g\""] :=
    List.map_injective_iff.mpr (fun _ _ => Option.some.inj) (hrender.symm.trans (by decide))
  subst htexts
  exact ⟨hheader _ _ (by decide +kernel),
    hquery _ _ _ (by decide +kernel) rfl (by decide +kernel)⟩

end Directives

end Hypermedia
