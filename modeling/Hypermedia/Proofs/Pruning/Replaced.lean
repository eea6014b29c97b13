import Hypermedia.Proofs.Pruning.Requested

/-!
# Where the strings of a processed document are

Neither pruning nor putting other strings in the places of those that are asked for moves anything: a
string that is asked for is at its path before and after.

* `Json.at?_replaceStrings` is what is at a path of a document whose strings are replaced.
* `SelectorTree.prune_at?_of_request?` says that what is asked for stays at its path when the document
  is pruned.
-/

namespace Hypermedia

/-! ## Replaced strings -/

namespace Json

variable {g : List Step → String → String}

theorem lookup_mapMemberStrings (g : List Step → String → String) (members : List (String × Json))
    (name : String) :
    (Id.run (mapMemberStrings (m := Id) g members)).lookup name =
      (members.lookup name).map (replaceStrings fun path => g (.member name :: path)) := by
  induction members with
  | nil => rfl
  | cons first rest ih =>
      obtain ⟨other, member⟩ := first
      have hcons : Id.run (mapMemberStrings (m := Id) g ((other, member) :: rest)) =
          (other, member.replaceStrings fun path => g (.member other :: path)) ::
            Id.run (mapMemberStrings (m := Id) g rest) := rfl
      rw [hcons, List.lookup_cons, List.lookup_cons]
      by_cases hname : name = other
      · simp [hname]
      · rw [beq_eq_false_iff_ne.mpr hname]
        exact ih

theorem getElem?_mapElementStrings (g : List Step → String → String) (start : Nat)
    (elements : List Json) (index : Nat) :
    (Id.run (mapElementStrings (m := Id) g start elements))[index]? =
      elements[index]?.map (replaceStrings fun path => g (.element (start + index) :: path)) := by
  induction elements generalizing start index with
  | nil => rfl
  | cons element rest ih =>
      have hcons : Id.run (mapElementStrings (m := Id) g start (element :: rest)) =
          element.replaceStrings (fun path => g (.element start :: path)) ::
            Id.run (mapElementStrings (m := Id) g (start + 1) rest) := rfl
      rw [hcons]
      cases index with
      | zero => rfl
      | succ index =>
          rw [List.getElem?_cons_succ, List.getElem?_cons_succ, ih, Nat.add_right_comm, Nat.add_assoc]

/-- A step leads to the part that it led to before, with its strings replaced. -/
theorem part?_replaceStrings (g : List Step → String → String) (document : Json) (step : Step) :
    (document.replaceStrings g).part? step =
      (document.part? step).map (replaceStrings fun path => g (step :: path)) := by
  cases document with
  | object members =>
      cases step with
      | member name => exact lookup_mapMemberStrings g members name
      | element index => rfl
  | array elements =>
      cases step with
      | member name => rfl
      | element index =>
          have helement := getElem?_mapElementStrings g 0 elements index
          rw [Nat.zero_add] at helement
          exact helement
  | _ => cases step <;> rfl

/-- At a path is what was there before, with its strings replaced. -/
theorem at?_replaceStrings (g : List Step → String → String) (document : Json) (path : List Step) :
    (document.replaceStrings g).at? path =
      (document.at? path).map (replaceStrings fun rest => g (path ++ rest)) := by
  induction path generalizing document g with
  | nil => rfl
  | cons step rest ih =>
      rw [at?_cons, at?_cons, part?_replaceStrings]
      cases document.part? step with
      | none => rfl
      | some part => exact ih _ part

end Json

/-! ## Pruned documents -/

namespace Pruning

/-- Where no `preload` pointer leads, nothing is asked for. -/
theorem request?_of_unselected {node : Option Node} (h : Unselected node) (path : List Json.Step) :
    request? node path = none := by
  induction path generalizing node with
  | nil =>
      cases node with
      | none => rfl
      | some node =>
          obtain ⟨hmarked, hnone⟩ := h node rfl
          rw [request?_nil, if_neg]
          intro hselected
          rw [hmarked.hasInSubtree_of_isSelected hselected] at hnone
          cases hnone
  | cons step rest ih =>
      rw [request?_cons]
      exact ih (h.child _)

end Pruning

namespace SelectorTree

variable {tree : SelectorTree} {path : List Json.Step} {node : Node}

/-- A tree that asks for something is not empty. -/
theorem isEmpty_of_request? (hmarked : tree.root.Marked) (h : tree.request? path = some node) :
    tree.isEmpty = false := by
  rw [Bool.eq_false_iff]
  intro hempty
  have hnone : tree.request? path = none :=
    Pruning.request?_of_unselected (unselected_of_isEmpty hmarked hempty) path
  rw [h] at hnone
  cases hnone

/-- Where the tree keeps a path, a walk gets to its end, also if nothing is pruned. -/
theorem isSome_descend?_start {asked : Node.Asked} (hmeans : tree.root.Means asked)
    {names : List String} (h : tree.root.keepsPath names = true) :
    ((Pruning.start tree).descend? tree names).isSome = true := by
  cases hprune : (Pruning.start tree).prune with
  | false => exact Pruning.Place.isSome_descend?_of_not_prune hprune names
  | true =>
      have hboth : (tree.fieldsActive && !tree.root.isSelected .fields) = true := hprune
      rw [Bool.and_eq_true, Bool.not_eq_true'] at hboth
      have hstart : Pruning.start tree = ⟨some tree.root, true⟩ := by
        rw [Pruning.start, hboth.1, hboth.2]
        rfl
      rw [hstart, Pruning.Place.isSome_descend? hmeans hboth.2]
      exact h

/-- A string that is asked for stays at its path when the document is pruned. -/
theorem prune_at?_of_request? {asked : Node.Asked} (hmeans : tree.root.Means asked)
    (h : tree.request? path = some node) {document : Json} {raw : String}
    (hraw : document.at? path = some (.string raw)) :
    (tree.prune document).at? path = some (.string raw) := by
  obtain ⟨hfollow, -⟩ := Option.filter_eq_some_iff.mp h
  have hkept : tree.root.keepsPath (path.map Json.Step.name) = true := by
    rw [Node.keepsPath, show tree.root.follow? _ = some node from hfollow]
    rfl
  obtain ⟨inner, hinner⟩ := Option.isSome_iff_exists.mp (isSome_descend?_start hmeans hkept)
  rw [prune_eq_kept]
  exact Pruning.kept_at? hraw hinner

end SelectorTree

end Hypermedia
