import Hypermedia.Proofs.Description.Links

/-!
# Which link serves a selector

Of the links in the responses of a route, the first one serves a selector that leaves nothing to be
filled in its template. That nothing is left is seen on the filled template, where an opening brace of
the value counts as well.

* `Description.servedBy?` is the parameter and the template of the link that serves a value, and
  `Description.relationOf?_eq_bind` says that the relation is this template with the value in it.
* `Description.servedBy?_congr` says that nothing matters of the value but whether it has an opening
  brace.
* `Description.relationOf?_same_target` compares the relations of two values, and
  `Description.not_forall_isSome_relationOf?` is a value that no link serves because of its brace.
-/

namespace Hypermedia.Description

/-! ## What is left to be filled -/

section Filling

variable {template parameter raw first second : String}

/-- Whether a template has other parameters than the given one. -/
def LeavesParameters (template parameter : String) : Prop :=
  '\x7b' ∈ Text.replaceAll (placeholder parameter) [] template.toList

/-- A template is refused if it has other parameters, or if there is something to fill and the value
has an opening brace. -/
theorem fill?_eq_none_iff : fill? template parameter raw = none ↔
    LeavesParameters template parameter ∨ '\x7b' ∈ template.toList ∧ '\x7b' ∈ raw.toList := by
  have hleft : fill? template parameter raw = none ↔
      '\x7b' ∈ Text.replaceAll (placeholder parameter) raw.toList template.toList := by
    unfold fill? placeholder
    dsimp only
    split_ifs with hleft <;> simpa using hleft
  obtain ⟨parts, -, htemplate, hreplaced⟩ :=
    Text.exists_parts_replaceAll (placeholder_ne_nil parameter) template.toList
  have hbrace : '\x7b' ∈ placeholder parameter := List.mem_cons_self
  rw [hleft, LeavesParameters, hreplaced, hreplaced, ← htemplate]
  simp only [Text.mem_intercalate_iff, hbrace, List.not_mem_nil, and_true, and_false, or_false]
  tauto

/-- Two values that agree in whether they have an opening brace are refused by the same templates. -/
theorem isSome_fill?_congr (h : '\x7b' ∈ first.toList ↔ '\x7b' ∈ second.toList) :
    (fill? template parameter first).isSome = (fill? template parameter second).isSome := by
  rw [Bool.eq_iff_iff, Option.isSome_iff_ne_none, Option.isSome_iff_ne_none, ne_eq, ne_eq,
    fill?_eq_none_iff, fill?_eq_none_iff, h]

end Filling

/-! ## The link that serves a value -/

/-- The parameter that a link takes the value at a selector to, and the template that this parameter
belongs to. -/
def Link.target? (description : Description) (selector : String) (link : Link) :
    Option (String × String) := do
  let parameter ← link.parameterFor? (expressionOf selector)
  let operationId ← link.operationId
  let template ← templateOf? description operationId
  pure (parameter, template)

/-- The links in the responses of a route, in order. -/
def linksOf (description : Description) (route : String) : List Link :=
  ((description.paths.get? route).bind (·.get)).toList.flatMap fun operation =>
    operation.responses.flatMap fun response => response.2.map (·.2)

/-- The target of the first link of a route that leaves nothing to be filled. -/
def servedBy? (description : Description) (route selector raw : String) :
    Option (String × String) :=
  (description.linksOf route).findSome? fun link =>
    (link.target? description selector).filter fun target => (fill? target.2 target.1 raw).isSome

variable {description : Description} {route selector raw : String}

/-- A link makes a relation by filling the template of its target. -/
theorem Link.relation?_eq_bind (link : Link) :
    link.relation? description selector raw =
      (link.target? description selector).bind fun target => fill? target.2 target.1 raw := by
  simp only [Link.relation?, Link.target?, Option.bind_eq_bind, Option.bind_assoc, Option.pure_def,
    Option.bind_some]

/-- The first value that something can be made of, if what is made is looked at as a test first. -/
theorem findSome?_bind {α β γ : Type} (f : α → Option β) (g : β → Option γ) (as : List α) :
    as.findSome? (fun a => (f a).bind g) =
      (as.findSome? fun a => (f a).filter fun b => (g b).isSome).bind g := by
  induction as with
  | nil => rfl
  | cons a rest ih =>
      rw [List.findSome?_cons, List.findSome?_cons]
      cases hf : f a with
      | none => exact ih
      | some b =>
          cases hg : g b with
          | none =>
              rw [Option.filter_some_neg (by simp [hg])]
              simpa [hg] using ih
          | some c =>
              rw [Option.filter_some_pos (by simp [hg])]
              simp [hg]

/-- The relation of a value is the template of the link that serves it, with the value in it. -/
theorem relationOf?_eq_bind :
    description.relationOf? route selector raw =
      (description.servedBy? route selector raw).bind fun target =>
        fill? target.2 target.1 raw := by
  have hlinks : description.relationOf? route selector raw =
      (description.linksOf route).findSome? (Link.relation? description selector raw) := by
    unfold relationOf? linksOf
    cases description.paths.get? route with
    | none => rfl
    | some item =>
        cases hget : item.get with
        | none => simp [hget]
        | some operation => simp [hget]
  rw [hlinks, servedBy?, ← findSome?_bind]
  exact congrArg (List.findSome? · _) (funext Link.relation?_eq_bind)

/-- Values that agree in whether they have an opening brace are served by the same link. -/
theorem servedBy?_congr {first second : String}
    (h : '\x7b' ∈ first.toList ↔ '\x7b' ∈ second.toList) :
    description.servedBy? route selector first = description.servedBy? route selector second := by
  unfold servedBy?
  simp only [isSome_fill?_congr h]

/-- A value is served by one of the links of the route. -/
theorem linksTo_of_servedBy? {parameter template : String}
    (h : description.servedBy? route selector raw = some (parameter, template)) :
    description.LinksTo route selector parameter template := by
  obtain ⟨link, hlink, htarget⟩ := List.exists_of_findSome?_eq_some h
  obtain ⟨operation, hoperation, hlink⟩ := List.mem_flatMap.mp hlink
  obtain ⟨item, hitem, hget⟩ := Option.bind_eq_some_iff.mp (Option.mem_toList.mp hoperation)
  obtain ⟨response, hresponse, hlink⟩ := List.mem_flatMap.mp hlink
  obtain ⟨named, hnamed, rfl⟩ := List.mem_map.mp hlink
  obtain ⟨found, hparameter, htarget⟩ :=
    Option.bind_eq_some_iff.mp (Option.filter_eq_some_iff.mp htarget).1
  obtain ⟨operationId, hid, htarget⟩ := Option.bind_eq_some_iff.mp htarget
  obtain ⟨path, hpath, htarget⟩ := Option.bind_eq_some_iff.mp htarget
  obtain ⟨rfl, rfl⟩ := Prod.mk.inj (Option.some.inj htarget)
  obtain ⟨target, hmem, hlinked⟩ := exists_of_templateOf? hpath
  exact ⟨item, operation, response, named, operationId, target, hitem, hget, hresponse, hnamed,
    Link.mem_of_parameterFor? hparameter, hid, hmem, hlinked⟩

/-! ## Two values -/

/-- **Which link serves a selector does not depend on the value**, up to its braces. Of two values that
both have an opening brace or both have none, a relation is made of the one exactly if one is made of
the other, and then both are the template of one link of the route with the value in place of one
parameter. A template refuses a value exactly if it has other parameters, or if it has something to
fill and the value has an opening brace. -/
theorem relationOf?_same_target {description : Description} {route selector first second : String}
    (h : '\x7b' ∈ first.toList ↔ '\x7b' ∈ second.toList) :
    ((description.relationOf? route selector first).isSome = true ↔
      (description.relationOf? route selector second).isSome = true) ∧
    (∀ made other, description.relationOf? route selector first = some made →
      description.relationOf? route selector second = some other →
      ∃ parameter template, description.LinksTo route selector parameter template ∧
        fill? template parameter first = some made ∧
        fill? template parameter second = some other) ∧
    ∀ raw parameter template, fill? template parameter raw = none ↔
      LeavesParameters template parameter ∨ '\x7b' ∈ template.toList ∧ '\x7b' ∈ raw.toList := by
  have hserved : description.servedBy? route selector first =
      description.servedBy? route selector second := servedBy?_congr h
  rw [relationOf?_eq_bind, relationOf?_eq_bind, ← hserved]
  refine ⟨?_, ?_, fun raw parameter template => fill?_eq_none_iff⟩
  · cases description.servedBy? route selector first with
    | none => rfl
    | some target =>
        rw [Option.bind_some, Option.bind_some, isSome_fill?_congr h]
  · intro made other hmade hother
    obtain ⟨⟨parameter, template⟩, htarget, hfirst⟩ := Option.bind_eq_some_iff.mp hmade
    rw [htarget] at hother
    exact ⟨parameter, template, linksTo_of_servedBy? htarget, hfirst, hother⟩

/-- The authors `5` and `7` of a book are users, by the same link. -/
theorem relationOf?_same_target_authors :
    ('\x7b' ∈ "5".toList ↔ '\x7b' ∈ "7".toList) ∧
    ∃ parameter template,
      authors.LinksTo "/books/\x7bid\x7d" "/author" parameter template ∧
      fill? template parameter "5" = some "/users/5" ∧
      fill? template parameter "7" = some "/users/7" := by
  have hbraces : '\x7b' ∈ "5".toList ↔ '\x7b' ∈ "7".toList := by decide
  exact ⟨hbraces, (relationOf?_same_target hbraces).2.1 _ _ (by decide +kernel) (by decide +kernel)⟩

/-- A value with an opening brace can be refused where another one is not: the author `{5}` of a book
makes no relation. -/
theorem not_forall_isSome_relationOf? :
    ¬∀ (description : Description) (route selector first second : String),
      first ≠ "" → second ≠ "" →
      ((description.relationOf? route selector first).isSome = true ↔
        (description.relationOf? route selector second).isSome = true) := by
  intro hsame
  have hauthor := hsame authors "/books/\x7bid\x7d" "/author" "5" "\x7b5\x7d" (by decide) (by decide)
  have hserved : (authors.relationOf? "/books/\x7bid\x7d" "/author" "5").isSome = true := by
    decide +kernel
  have hrefused :
      (authors.relationOf? "/books/\x7bid\x7d" "/author" "\x7b5\x7d").isSome = false := by
    decide +kernel
  rw [hserved, hrefused] at hauthor
  simp at hauthor

end Hypermedia.Description
