import Mathlib.Data.List.Basic
import Hypermedia.Proofs.Selector.Tree
import Hypermedia.Pruning

/-!
# The strings that are asked for as relations

A walk calls its resolution for the strings that `preload` selects in the whole document, whatever
is pruned.

* `Pruning.found` lists those strings in document order. It knows nothing of pruning: a string is
  there if its path leads to a node that `preload` selects.
* `SelectorTree.found_transform` says that a walk resolves exactly these, in this order, and that
  they are in the walked document with what has replaced them.
-/

namespace Hypermedia

/-- A string that is asked for as a relation. -/
structure Found where
  /-- The node that its path leads to. -/
  node : Node
  /-- The string. -/
  raw : String

/-- The string with what a resolution puts in its place. -/
def Found.resolved {σ : Type} (resolve : Node → String → StateM σ (Option String))
    (found : Found) : StateM σ Found := do
  let replacement ← resolve found.node found.raw
  pure { found with raw := replacement.getD found.raw }

namespace Pruning

/-! ## The strings of a document -/

/-- A string whose path leads to a node, if that is selected by `preload`. -/
def foundString (node : Option Node) (raw : String) : List Found :=
  match node with
  | some node => if node.isSelected .preload then [⟨node, raw⟩] else []
  | none => []

mutual

/-- The strings below a node that `preload` selects, in document order. -/
def found (node : Option Node) : Json → List Found
  | .null => []
  | .bool _ => []
  | .number _ => []
  | .string raw => foundString node raw
  | .array elements => foundElements node 0 elements
  | .object members => foundMembers node members

/-- The strings that `preload` selects in the elements of an array from an index on. -/
def foundElements (node : Option Node) (index : Nat) : List Json → List Found
  | [] => []
  | element :: rest =>
    found (node.bind (·.matchChild (toString index))) element ++
      foundElements node (index + 1) rest

/-- The strings that `preload` selects in the members of an object. -/
def foundMembers (node : Option Node) : List (String × Json) → List Found
  | [] => []
  | (name, member) :: rest =>
    found (node.bind (·.matchChild name)) member ++ foundMembers node rest

end

/-- The strings that `preload` selects in an array whose pruned elements are `none`. -/
def foundSlots (node : Option Node) (index : Nat) : List (Option Json) → List Found
  | [] => []
  | none :: rest => foundSlots node (index + 1) rest
  | some element :: rest =>
    found (node.bind (·.matchChild (toString index))) element ++ foundSlots node (index + 1) rest

/-- The elements that are kept of an array hold the same strings at the same places. -/
theorem foundElements_trim (node : Option Node) (index : Nat) (slots : List (Option Json)) :
    foundElements node index (trim slots) = foundSlots node index slots := by
  induction slots generalizing index with
  | nil => rfl
  | cons slot rest ih =>
      cases slot with
      | none =>
          rw [foundSlots, ← ih (index + 1)]
          cases htrim : trim rest with
          | nil => simp only [trim, htrim, foundElements]
          | cons kept more =>
              simp only [trim, htrim]
              rw [foundElements, found, List.nil_append]
      | some element =>
          rw [foundSlots, ← ih (index + 1), trim, foundElements]

/-! ## Where nothing is selected -/

/-- No `preload` pointer leads to a place or below it. -/
def Unselected (node : Option Node) : Prop :=
  ∀ found, node = some found → found.Marked ∧ found.hasInSubtree .preload = false

/-- Nor does one lead to what is below the place. -/
theorem Unselected.child {node : Option Node} (h : Unselected node) (name : String) :
    Unselected (node.bind (·.matchChild name)) := by
  intro child hchild
  obtain ⟨parent, hnode, hmatch⟩ := Option.bind_eq_some_iff.mp hchild
  obtain ⟨hmarked, hnone⟩ := h parent hnode
  refine ⟨hmarked.of_matchChild hmatch, ?_⟩
  rw [Bool.eq_false_iff] at hnone ⊢
  exact fun hknown => hnone (hmarked.hasInSubtree_of_matchChild hmatch hknown)

mutual

/-- Where no `preload` pointer leads, no string is selected. -/
theorem found_eq_nil {node : Option Node} (h : Unselected node) :
    (document : Json) → found node document = []
  | .null => rfl
  | .bool _ => rfl
  | .number _ => rfl
  | .string raw => by
      cases node with
      | none => rfl
      | some node =>
          obtain ⟨hmarked, hnone⟩ := h node rfl
          have hselected : node.isSelected .preload ≠ true := by
            intro hself
            rw [hmarked.hasInSubtree_of_isSelected hself] at hnone
            cases hnone
          rw [found, foundString, if_neg hselected]
  | .array elements => by
      rw [found]
      exact foundElements_eq_nil h 0 elements
  | .object members => by
      rw [found]
      exact foundMembers_eq_nil h members

/-- The same of elements. -/
theorem foundElements_eq_nil {node : Option Node} (h : Unselected node) (index : Nat) :
    (elements : List Json) → foundElements node index elements = []
  | [] => rfl
  | element :: rest => by
      rw [foundElements, found_eq_nil (h.child _) element, foundElements_eq_nil h (index + 1) rest]
      rfl

/-- The same of members. -/
theorem foundMembers_eq_nil {node : Option Node} (h : Unselected node) :
    (members : List (String × Json)) → foundMembers node members = []
  | [] => rfl
  | (name, member) :: rest => by
      rw [foundMembers, found_eq_nil (h.child _) member, foundMembers_eq_nil h rest]
      rfl

end

/-! ## Places of a walk -/

/-- The node of a place, if there is one, is marked. -/
def Place.Marked (place : Place) : Prop :=
  ∀ node, place.node = some node → node.Marked

variable {tree : SelectorTree} {place inner : Place} {name : String}

/-- A member that is walked is at the place that the tree leads to. -/
theorem Place.node_of_member? (h : place.member? tree name = some inner) :
    inner.node = place.node.bind (·.matchChild name) := by
  unfold Place.member? at h
  generalize place.node.bind (·.matchChild name) = child at h
  cases child with
  | none =>
      split_ifs at h
      cases h
      rfl
  | some child =>
      dsimp only at h
      split_ifs at h <;> cases h <;> rfl

/-- What is below a marked place is marked. -/
theorem Place.Marked.member? (h : place.Marked) (hmember : place.member? tree name = some inner) :
    inner.Marked := by
  intro child hchild
  rw [Place.node_of_member? hmember] at hchild
  obtain ⟨parent, hnode, hmatch⟩ := Option.bind_eq_some_iff.mp hchild
  exact (h parent hnode).of_matchChild hmatch

/-- What is pruned holds nothing that is selected by `preload`. -/
theorem Place.Marked.unselected_of_pruned (h : place.Marked)
    (hmember : place.member? tree name = none) :
    Unselected (place.node.bind (·.matchChild name)) := by
  intro child hchild
  obtain ⟨parent, hnode, hmatch⟩ := Option.bind_eq_some_iff.mp hchild
  refine ⟨(h parent hnode).of_matchChild hmatch, ?_⟩
  unfold Place.member? at hmember
  rw [hchild] at hmember
  dsimp only at hmember
  split_ifs at hmember with hprune hkeep
  rw [Bool.or_eq_true, not_or] at hkeep
  exact Bool.eq_false_iff.mpr hkeep.2

/-! ## Walks -/

variable {σ : Type} {resolve : Node → String → StateM σ (Option String)}

/-- The string at a place is resolved if it is selected. -/
theorem found_resolveString (place : Place) (raw : String) :
    found place.node <$> resolveString resolve place raw =
      (foundString place.node raw).mapM (Found.resolved resolve) := by
  unfold resolveString foundString
  cases hnode : place.node with
  | none => rfl
  | some node =>
      by_cases hselected : node.isSelected .preload = true
      · simp [hselected, found, foundString, Found.resolved]
      · simp [hselected, found, foundString]

mutual

/-- A walk resolves the strings that are selected, in document order, and they are in the walked
document with what has replaced them. -/
theorem found_walk (tree : SelectorTree) (place : Place) (h : place.Marked) :
    (document : Json) → found place.node <$> walk tree resolve place document =
      (found place.node document).mapM (Found.resolved resolve)
  | .null => rfl
  | .bool _ => rfl
  | .number _ => rfl
  | .string raw => by
      rw [walk, found]
      exact found_resolveString place raw
  | .array elements => by
      rw [walk, found, ← foundSlots_walkElements tree place h 0 elements]
      simp only [map_bind, map_pure, found, foundElements_trim]
      rfl
  | .object members => by
      rw [walk, found, ← foundMembers_walkMembers tree place h members]
      simp only [map_bind, map_pure, found]
      rfl

/-- The same of elements. -/
theorem foundSlots_walkElements (tree : SelectorTree) (place : Place) (h : place.Marked)
    (index : Nat) : (elements : List Json) →
      foundSlots place.node index <$> walkElements tree resolve place index elements =
        (foundElements place.node index elements).mapM (Found.resolved resolve)
  | [] => rfl
  | element :: rest => by
      rw [walkElements, foundElements, List.mapM_append,
        ← foundSlots_walkElements tree place h (index + 1) rest]
      cases hmember : place.member? tree (toString index) with
      | none =>
          rw [found_eq_nil (h.unselected_of_pruned hmember)]
          simp [foundSlots]
      | some inner =>
          rw [← Place.node_of_member? hmember, ← found_walk tree inner (h.member? hmember) element]
          simp [foundSlots, Place.node_of_member? hmember]

/-- The same of members. -/
theorem foundMembers_walkMembers (tree : SelectorTree) (place : Place) (h : place.Marked) :
    (members : List (String × Json)) →
      foundMembers place.node <$> walkMembers tree resolve place members =
        (foundMembers place.node members).mapM (Found.resolved resolve)
  | [] => rfl
  | (name, member) :: rest => by
      rw [walkMembers, foundMembers, List.mapM_append,
        ← foundMembers_walkMembers tree place h rest]
      cases hmember : place.member? tree name with
      | none =>
          rw [found_eq_nil (h.unselected_of_pruned hmember)]
          simp
      | some inner =>
          rw [← Place.node_of_member? hmember, ← found_walk tree inner (h.member? hmember) member]
          simp [foundMembers, Place.node_of_member? hmember]

end

end Pruning

/-! ## Whole documents -/

namespace SelectorTree

/-- The strings of a document that a tree asks for as relations, in document order. -/
def found (tree : SelectorTree) (document : Json) : List Found :=
  Pruning.found (some tree.root) document

/-- A walk over a whole document resolves the strings that the tree asks for, in document order, and
they are in the walked document with what has replaced them. -/
theorem found_transform {tree : SelectorTree} (h : tree.root.Marked) {σ : Type}
    (resolve : Node → String → StateM σ (Option String)) (document : Json) :
    tree.found <$> transform tree resolve document =
      (tree.found document).mapM (Found.resolved resolve) := by
  have hstart : (Pruning.start tree).Marked := by
    intro node hnode
    exact Option.some.inj hnode ▸ h
  exact Pruning.found_walk tree (Pruning.start tree) hstart document

/-- In a tree without pointers no `preload` pointer leads anywhere. -/
theorem unselected_of_isEmpty {tree : SelectorTree} (h : tree.root.Marked)
    (hempty : tree.isEmpty = true) : Pruning.Unselected (some tree.root) := by
  intro node hnode
  obtain rfl := Option.some.inj hnode
  unfold isEmpty Selection.isEmpty at hempty
  rw [Bool.and_eq_true, Bool.not_eq_true', Bool.not_eq_true'] at hempty
  exact ⟨h, hempty.1⟩

/-- It asks for nothing. -/
theorem found_of_isEmpty {tree : SelectorTree} (h : tree.root.Marked) (hempty : tree.isEmpty = true)
    (document : Json) : tree.found document = [] :=
  Pruning.found_eq_nil (unselected_of_isEmpty h hempty) document

end SelectorTree

end Hypermedia
