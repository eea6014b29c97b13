import Hypermedia.Proofs.Description.Routes
import Hypermedia.Proofs.Text.Replacement

/-!
# Relations that links make

A link takes the value at a selector to a parameter of another operation. The value is put into the
template of that operation as it is, so it may bring slashes of its own, or be empty.

* `Description.LinksTo` says which parameter of which template a link fills, and `Description.Fills`
  what filling is.
* `Description.length_segments_iff` says when the relation has as many segments as the template, and
  `Description.matches_filled_iff` when the template matches the relation.
* `Description.relationOf?_filled` puts them together for the relations of a description, and
  `Description.not_forall_relationOf?_served` is a relation that its template does not match.
-/

namespace Hypermedia.Description

/-! ## Links -/

/-- A link in a response to the `get` operation of a route takes the value at a selector to a
parameter of an operation, and a path with this operation has the template. -/
def LinksTo (description : Description) (route selector parameter template : String) : Prop :=
  ∃ item operation response link operationId target,
    description.paths.get? route = some item ∧ item.get = some operation ∧
    response ∈ operation.responses ∧ link ∈ response.2 ∧
    (parameter, some ("$response.body#" ++ selector)) ∈ link.2.parameters ∧
    link.2.operationId = some operationId ∧ (template, target) ∈ description.paths ∧
    ∃ linked ∈ target.operations, linked.operationId = some operationId

/-- A parameter as it is written in a template. -/
def placeholder (parameter : String) : List Char :=
  '\x7b' :: parameter.toList ++ ['\x7d']

/-- A relation is a template with a value in place of a parameter: both are the same parts, joined by
the one and by the other. Nothing is left to be filled. -/
structure Fills (template parameter raw relation : String) : Prop where
  /-- The parts around the parameter. -/
  parts : ∃ parts ≠ [], List.intercalate (placeholder parameter) parts = template.toList ∧
    List.intercalate raw.toList parts = relation.toList
  /-- There are no other parameters. -/
  complete : '\x7b' ∉ relation.toList

/-- The operation is found under the template. -/
theorem exists_of_templateOf? {description : Description} {operationId template : String}
    (h : description.templateOf? operationId = some template) :
    ∃ target, (template, target) ∈ description.paths ∧
      ∃ linked ∈ target.operations, linked.operationId = some operationId := by
  obtain ⟨⟨found, target⟩, hfind, rfl⟩ := Option.map_eq_some_iff.mp h
  have hany := List.find?_some hfind
  obtain ⟨linked, hlinked, hid⟩ := List.any_eq_true.mp hany
  exact ⟨target, List.mem_of_find?_eq_some hfind, linked, hlinked, of_decide_eq_true hid⟩

/-- The parameter is given by the expression. -/
theorem Link.mem_of_parameterFor? {link : Link} {expression parameter : String}
    (h : link.parameterFor? expression = some parameter) :
    (parameter, some expression) ∈ link.parameters := by
  obtain ⟨⟨name, value⟩, hfind, rfl⟩ := Option.map_eq_some_iff.mp h
  have hvalue := List.find?_some hfind
  rw [← of_decide_eq_true hvalue]
  exact List.mem_of_find?_eq_some hfind

/-- A template that is filled is one without the parameter, and without any other. -/
theorem fill?_eq_some {template parameter raw relation : String}
    (h : fill? template parameter raw = some relation) :
    relation.toList = Text.replaceAll (placeholder parameter) raw.toList template.toList ∧
      '\x7b' ∉ relation.toList := by
  unfold fill? at h
  dsimp only at h
  split_ifs at h with hleft
  obtain rfl := Option.some.inj h
  rw [String.toList_ofList]
  exact ⟨rfl, by simpa using hleft⟩

/-- A relation is what some link of the route makes of the value. -/
theorem exists_of_relationOf? {description : Description} {route selector raw relation : String}
    (h : description.relationOf? route selector raw = some relation) :
    ∃ parameter template, description.LinksTo route selector parameter template ∧
      fill? template parameter raw = some relation := by
  obtain ⟨item, hitem, h⟩ := Option.bind_eq_some_iff.mp h
  obtain ⟨operation, hoperation, h⟩ := Option.bind_eq_some_iff.mp h
  obtain ⟨link, hlink, h⟩ := List.exists_of_findSome?_eq_some h
  obtain ⟨parameter, hparameter, h⟩ := Option.bind_eq_some_iff.mp h
  obtain ⟨operationId, hid, h⟩ := Option.bind_eq_some_iff.mp h
  obtain ⟨template, htemplate, hfill⟩ := Option.bind_eq_some_iff.mp h
  obtain ⟨response, hresponse, hlink⟩ := List.mem_flatMap.mp hlink
  obtain ⟨named, hnamed, rfl⟩ := List.mem_map.mp hlink
  obtain ⟨target, htarget, hlinked⟩ := exists_of_templateOf? htemplate
  exact ⟨parameter, template, ⟨item, operation, response, named, operationId, target, hitem,
    hoperation, hresponse, hnamed, Link.mem_of_parameterFor? hparameter, hid, htarget, hlinked⟩,
    hfill⟩

/-! ## Segments of a relation -/

section Filled

variable {template parameter raw relation : String}

theorem placeholder_ne_nil (parameter : String) : placeholder parameter ≠ [] :=
  List.cons_ne_nil _ _

theorem slash_mem_placeholder_iff : '/' ∈ placeholder parameter ↔ '/' ∈ parameter.toList := by
  simp [placeholder]

theorem fills_of_fill? (h : fill? template parameter raw = some relation) :
    Fills template parameter raw relation := by
  obtain ⟨hrelation, hcomplete⟩ := fill?_eq_some h
  obtain ⟨parts, hne, htemplate, hreplaced⟩ :=
    Text.exists_parts_replaceAll (placeholder_ne_nil parameter) template.toList
  exact ⟨⟨parts, hne, htemplate, (hrelation.trans (hreplaced raw.toList)).symm⟩, hcomplete⟩

/-- The relation has as many segments as the template, if the value has as many slashes as the name
of the parameter, or if there is nothing to fill. -/
theorem length_segments_iff (h : Fills template parameter raw relation) :
    (segments relation).length = (segments template).length ↔
      '\x7b' ∉ template.toList ∨ raw.toList.count '/' = parameter.toList.count '/' := by
  obtain ⟨⟨parts, hne, htemplate, hrelation⟩, hcomplete⟩ := h
  obtain ⟨part, more, rfl⟩ := List.exists_cons_of_ne_nil hne
  cases more with
  | nil =>
      rw [List.intercalate_singleton] at htemplate hrelation
      rw [← hrelation] at hcomplete
      rw [segments, segments, ← htemplate, ← hrelation]
      exact iff_of_true rfl (.inl hcomplete)
  | cons next rest =>
      have hbrace : '\x7b' ∈ template.toList := by
        rw [← htemplate]
        simp [List.intercalate_cons_cons, placeholder]
      have hcount : (placeholder parameter).count '/' = parameter.toList.count '/' := by
        simp [placeholder]
      rw [or_iff_right (not_not_intro hbrace), segments, segments, Text.length_splitOn,
        Text.length_splitOn, ← htemplate, ← hrelation, Text.count_intercalate,
        Text.count_intercalate, hcount, Nat.add_right_cancel_iff, Nat.add_left_cancel_iff]
      exact Nat.mul_right_inj (Nat.succ_ne_zero rest.length)

/-- A segment with something to fill only becomes empty if the value is. -/
theorem filled_ne_nil {segment : List Char} (hbrace : '\x7b' ∈ segment) (hraw : raw ≠ "") :
    Text.replaceAll (placeholder parameter) raw.toList segment ≠ [] := by
  obtain ⟨parts, hne, rfl, hreplaced⟩ :=
    Text.exists_parts_replaceAll (placeholder_ne_nil parameter) segment
  rw [hreplaced]
  obtain ⟨part, more, rfl⟩ := List.exists_cons_of_ne_nil hne
  cases more with
  | nil =>
      rw [List.intercalate_singleton] at hbrace ⊢
      exact List.ne_nil_of_mem hbrace
  | cons next rest =>
      have hvalue : raw.toList ≠ [] := fun hnil => hraw (String.toList_eq_nil_iff.mp hnil)
      rw [List.intercalate_cons_cons, List.append_assoc]
      exact List.append_ne_nil_of_right_ne_nil _ (List.append_ne_nil_of_left_ne_nil hvalue _)

/-- A segment of the template serves the filled one, if it is a parameter where there is something to
fill, and the parameter does not become empty. -/
theorem serves_filled_iff {segment : List Char}
    (hcomplete : '\x7b' ∉ Text.replaceAll (placeholder parameter) raw.toList segment) :
    Serves segment (Text.replaceAll (placeholder parameter) raw.toList segment) ↔
      ('\x7b' ∈ segment → IsParameter segment ∧
        (raw = "" → Text.replaceAll (placeholder parameter) [] segment ≠ [])) := by
  by_cases hbrace : '\x7b' ∈ segment
  · have hother : segment ≠ Text.replaceAll (placeholder parameter) raw.toList segment :=
      fun hsame => hcomplete (hsame ▸ hbrace)
    rw [imp_iff_right hbrace, Serves, or_iff_left hother]
    refine and_congr_right fun _ => ?_
    by_cases hraw : raw = ""
    · rw [imp_iff_right hraw, hraw]
      rfl
    · exact iff_of_true (filled_ne_nil hbrace hraw) fun hempty => absurd hempty hraw
  · refine iff_of_true (.inr ?_) fun hmem => absurd hmem hbrace
    exact (Text.replaceAll_of_not_mem hbrace _ _).symm

/-- The template matches the relation, if there is nothing to fill, or if the value has no slash and
every segment with something to fill is a parameter that does not become empty. -/
theorem matches_filled_iff (hparameter : '/' ∉ parameter.toList)
    (h : fill? template parameter raw = some relation) :
    Matches template relation ↔
      ('\x7b' ∈ template.toList → '/' ∉ raw.toList ∧
        ∀ segment ∈ segments template, '\x7b' ∈ segment → IsParameter segment ∧
          (raw = "" → Text.replaceAll (placeholder parameter) [] segment ≠ [])) := by
  obtain ⟨hrelation, hcomplete⟩ := fill?_eq_some h
  by_cases hbrace : '\x7b' ∈ template.toList
  · rw [imp_iff_right hbrace]
    by_cases hraw : '/' ∈ raw.toList
    · -- There are too many segments.
      refine iff_of_false (fun hmatches => ?_) fun hserves => hserves.1 hraw
      rcases (length_segments_iff (fills_of_fill? h)).mp hmatches.length_eq.symm with hnone | hsame
      · exact hnone hbrace
      · rw [List.count_eq_zero.mpr hparameter] at hsame
        exact List.count_eq_zero.mp hsame hraw
    · have hsegments : segments relation =
          (segments template).map (Text.replaceAll (placeholder parameter) raw.toList) := by
        unfold segments
        rw [hrelation, Text.splitOn_replaceAll (placeholder_ne_nil parameter)
          (mt slash_mem_placeholder_iff.mp hparameter) hraw]
      rw [and_iff_right hraw, Matches, hsegments, List.forall₂_map_right_iff, List.forall₂_same]
      refine forall₂_congr fun segment hsegment => serves_filled_iff fun hmem => hcomplete ?_
      have hpiece : Text.replaceAll (placeholder parameter) raw.toList segment ∈ segments relation :=
        hsegments ▸ List.mem_map_of_mem hsegment
      exact (Text.mem_of_mem_splitOn hpiece hmem).1
  · refine iff_of_true ?_ fun hmem => absurd hmem hbrace
    have hsame : relation = template := by
      rw [← String.toList_inj, hrelation, placeholder, List.cons_append,
        Text.replaceAll_of_not_mem hbrace]
    rw [hsame, Matches, List.forall₂_same]
    exact fun segment _ => .inr rfl

end Filled

/-- **The relation that a link makes.** A link in a response to the `get` operation of the route takes
the value at the selector to a parameter of an operation that some path has, and the relation is the
template of that path with the value in place of the parameter, with nothing left to be filled. It has
as many segments as the template exactly if there was nothing to fill or the value has as many slashes
as the name of the parameter. If the name has none, the template matches the relation exactly if there
was nothing to fill, or the value has no slash and every segment with something to fill is a
parameter; if the value is empty, there must be more to such a segment than what is filled. -/
theorem relationOf?_filled {description : Description} {route selector raw relation : String}
    (h : description.relationOf? route selector raw = some relation) :
    ∃ parameter template, description.LinksTo route selector parameter template ∧
      Fills template parameter raw relation ∧
      ((segments relation).length = (segments template).length ↔
        '\x7b' ∉ template.toList ∨ raw.toList.count '/' = parameter.toList.count '/') ∧
      ('/' ∉ parameter.toList →
        ((matchTemplate? template relation).isSome = true ↔
          ('\x7b' ∈ template.toList → '/' ∉ raw.toList ∧
            ∀ segment ∈ segments template, '\x7b' ∈ segment → IsParameter segment ∧
              (raw = "" → Text.replaceAll (placeholder parameter) [] segment ≠ [])))) := by
  obtain ⟨parameter, template, hlinks, hfill⟩ := exists_of_relationOf? h
  refine ⟨parameter, template, hlinks, fills_of_fill? hfill,
    length_segments_iff (fills_of_fill? hfill), fun hparameter => ?_⟩
  rw [isSome_matchTemplate?_iff]
  exact matches_filled_iff hparameter hfill

/-- Books whose authors are users. -/
def authors : Description :=
  ⟨[("/books/\x7bid\x7d", ⟨some ⟨some "getBook", [("200", [("author",
      ⟨some "getUser", [("userId", some "$response.body#/author")]⟩)])]⟩, []⟩),
    ("/users/\x7buserId\x7d", ⟨some ⟨some "getUser", []⟩, []⟩)]⟩

/-- The author `5` of a book is the user `5`. -/
theorem relationOf?_author :
    authors.relationOf? "/books/\x7bid\x7d" "/author" "5" = some "/users/5" ∧
    ∃ parameter template,
      authors.LinksTo "/books/\x7bid\x7d" "/author" parameter template ∧
      Fills template parameter "5" "/users/5" := by
  have hrelation : authors.relationOf? "/books/\x7bid\x7d" "/author" "5" = some "/users/5" := by
    decide +kernel
  obtain ⟨parameter, template, hlinks, hfills, -⟩ := relationOf?_filled hrelation
  exact ⟨hrelation, parameter, template, hlinks, hfills⟩

/-- The template of the target operation need not match the relation: the author `5/6` of a book
makes the relation `/users/5/6`, which has a segment more. -/
theorem not_forall_relationOf?_served :
    ¬∀ (description : Description) (route selector raw relation : String),
      description.relationOf? route selector raw = some relation →
      ∃ parameter template, description.LinksTo route selector parameter template ∧
        (matchTemplate? template relation).isSome = true := by
  intro hserved
  obtain ⟨parameter, template, hlinks, hmatch⟩ := hserved authors "/books/\x7bid\x7d" "/author"
    "5/6" "/users/5/6" (by decide +kernel)
  obtain ⟨item, operation, response, link, operationId, target, -, -, -, -, -, -, hentry, -⟩ := hlinks
  have hnone : ∀ entry ∈ authors.paths, matchTemplate? entry.1 "/users/5/6" = none := by
    decide +kernel
  rw [hnone _ hentry] at hmatch
  cases hmatch

end Hypermedia.Description
