import Hypermedia.Eligibility
import Hypermedia.Proofs.Directive

/-!
# Requests that are not processed

Whether a request is processed is asked of the bytes of its header fields and of the parameters of its
query; its directives are read from the lines of header fields that are text, and from these
parameters, as structured lists.

* `isEligibleRequest_eq_false_iff` says that a request is not processed exactly if every value of both
  directives is empty.
* `Directive.paths_of_ofValues?` says that any number of empty values writes no pointer: one of them
  is the empty list, and several are no list.
* `Directives.isEligibleRequest_of_pointers` puts these together.
-/

namespace Hypermedia

namespace Directive

/-! ## Empty values -/

/-- A list does not start with a comma. -/
theorem parsePaths?_comma (rest : List Char) : parsePaths? (.ofList (',' :: rest)) = none := by
  have hlist : StructuredField.parseList? (.ofList (',' :: rest)) = none := by
    unfold StructuredField.parseList?
    rw [String.toList_ofList]
    dsimp only
    split_ifs
    · rfl
    · rfl
  unfold parsePaths?
  rw [hlist]
  rfl

/-- Empty values write no pointer, however many there are. -/
theorem paths_of_ofValues? {source : Source} {values : List String} {directive : Directive}
    (hempty : ∀ value ∈ values, value = "") (h : ofValues? source values = some directive) :
    directive.paths = [] := by
  unfold ofValues? at h
  split_ifs at h with hnone
  obtain ⟨paths, hpaths, rfl⟩ := Option.map_eq_some_iff.mp h
  cases values with
  | nil => exact absurd rfl hnone
  | cons value rest =>
      obtain rfl := hempty value List.mem_cons_self
      cases rest with
      | nil => exact (Option.some.inj hpaths).symm
      | cons next more =>
          -- The separator comes first, since the value before it is empty.
          have hcomma : ", ".intercalate ("" :: next :: more) =
              .ofList (',' :: ' ' :: (", ".intercalate (next :: more)).toList) := by
            rw [← String.toList_inj, String.toList_ofList, String.toList_intercalate,
              String.toList_intercalate, List.map_cons, List.map_cons, List.intercalate_cons_cons]
            rfl
          rw [hcomma, parsePaths?_comma] at hpaths
          cases hpaths

end Directive

/-! ## Requests -/

open Directive

/-- A request is not processed exactly if every value of both directives is empty. -/
theorem isEligibleRequest_eq_false_iff {headers : Headers} {uri : Uri} :
    isEligibleRequest headers uri = false ↔
      ∀ kind : Kind, (∀ line ∈ headers.getAll kind.name, line = []) ∧
        ∀ value ∈ queryValues kind (uri.query.getD ""), value = "" := by
  have hall : ∀ kind : Kind, kind ∈ Kind.all := by
    intro kind
    cases kind <;> decide
  simp only [isEligibleRequest, Bool.or_eq_false_iff, List.any_eq_false, Bool.not_eq_true',
    Bool.not_eq_false, Bool.and_eq_true, queryValues, List.mem_map, List.mem_filter,
    List.isEmpty_iff, List.any_eq_true, decide_eq_true_eq, not_and, not_exists]
  constructor
  · rintro ⟨hlines, hpairs⟩ kind
    refine ⟨hlines kind (hall kind), ?_⟩
    rintro value ⟨pair, ⟨hpair, hname⟩, rfl⟩
    by_contra hvalue
    exact hpairs pair hpair (by simpa using hvalue) kind (hall kind) hname.symm
  · intro h
    refine ⟨fun kind _ => (h kind).1, ?_⟩
    intro pair hpair hvalue kind _ hname
    have hempty := (h kind).2 pair.2 ⟨pair, ⟨hpair, hname.symm⟩, rfl⟩
    rw [hempty] at hvalue
    cases hvalue

namespace Directives

/-- Without values there are no pointers. -/
theorem paths_eq_nil {headers : Headers} {uri : Uri} {kind : Kind}
    (hlines : ∀ line ∈ headers.getAll kind.name, line = [])
    (hvalues : ∀ value ∈ queryValues kind (uri.query.getD ""), value = "") :
    (ofRequest headers uri).paths kind = [] := by
  have htexts : ∀ text ∈ headerLines kind headers, text = "" := by
    intro text htext
    obtain ⟨line, hline, hread⟩ := List.mem_filterMap.mp htext
    rw [hlines line hline] at hread
    exact (Option.some.inj hread).symm
  unfold paths
  rw [get?_ofRequest]
  cases hread : ofRequest? kind headers (uri.query.getD "") with
  | none => rfl
  | some directive =>
      rcases Option.or_eq_some_iff.mp hread with hheader | ⟨-, hquery⟩
      · exact paths_of_ofValues? htexts hheader
      · exact paths_of_ofValues? hvalues hquery

/-- **No request with pointers is left unprocessed.** A request whose directives make a tree with
pointers is processed. One that is not processed has nothing but empty values for both directives,
in every line of header fields and every parameter of the query, and so neither directive has a
pointer. -/
theorem isEligibleRequest_of_pointers (headers : Headers) (uri : Uri) :
    ((ofRequest headers uri).tree.isEmpty = false → isEligibleRequest headers uri = true) ∧
    (isEligibleRequest headers uri = false → ∀ kind : Kind,
      (∀ line ∈ headers.getAll kind.name, line = []) ∧
      (∀ value ∈ queryValues kind (uri.query.getD ""), value = "") ∧
      (ofRequest headers uri).paths kind = []) := by
  have hpaths : isEligibleRequest headers uri = false →
      ∀ kind, (ofRequest headers uri).paths kind = [] := by
    intro hrefused kind
    obtain ⟨hlines, hvalues⟩ := isEligibleRequest_eq_false_iff.mp hrefused kind
    exact paths_eq_nil hlines hvalues
  constructor
  · intro htree
    by_contra hrefused
    have hnone := hpaths (Bool.eq_false_iff.mpr hrefused)
    rw [tree, hnone .preload, hnone .fields] at htree
    cases htree
  · intro hrefused kind
    obtain ⟨hlines, hvalues⟩ := isEligibleRequest_eq_false_iff.mp hrefused kind
    exact ⟨hlines, hvalues, hpaths hrefused kind⟩

/-- A pointer in the query counts where the header field of its directive is no list, and empty values
do not. -/
theorem isEligibleRequest_of_pointers_books :
    isEligibleRequest ⟨[("preload", Bytes.ofString "\"/author")]⟩
      ⟨none, none, "/books/1", some "preload=%22%2Fauthor%22"⟩ = true ∧
    ∀ kind, (ofRequest ⟨[("preload", []), ("preload", [])]⟩
      ⟨none, none, "/books/1", some "fields=&page=2&fields="⟩).paths kind = [] := by
  constructor
  · exact (isEligibleRequest_of_pointers _ _).1 (by decide +kernel)
  · intro kind
    exact ((isEligibleRequest_of_pointers _ _).2 (by decide +kernel) kind).2.2

end Directives

end Hypermedia
