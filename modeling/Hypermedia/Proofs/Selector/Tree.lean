import Mathlib.Data.List.Basic
import Hypermedia.Selector.Tree

/-!
# What the nodes of a selector tree know

A node keeps the directives that select it or something below it. In a tree that was built by
insertions, they are right: where a directive is missing, it selects nothing below either.

* `Node.Marked` says so of a node and all nodes below it.
* `Node.Marked.insert` is the step, `SelectorTree.marked_build` what follows for whole trees.
-/

namespace Hypermedia

namespace Node

/-- Every directive that selects a node is known there, and so is every directive known at a child.
The same holds of all nodes below. -/
inductive Marked : Node → Prop where
  /-- A node with its children. -/
  | mk {pointer : String} {selected inSubtree : Selection} {children : List (Segment × Node)}
      (hself : ∀ kind, selected.contains kind = true → inSubtree.contains kind = true)
      (hchildren : ∀ entry ∈ children, Marked entry.2)
      (hknown : ∀ entry ∈ children, ∀ kind,
        entry.2.hasInSubtree kind = true → inSubtree.contains kind = true) :
      Marked (mk pointer selected inSubtree children)

variable {node child : Node}

/-- No directive is known at a node that nothing selects yet. -/
@[simp] theorem hasInSubtree_empty (pointer : String) (kind : Kind) :
    (empty pointer).hasInSubtree kind = false := by
  cases kind <;> rfl

/-- A node that nothing selects yet. -/
theorem Marked.empty (pointer : String) : Marked (empty pointer) := by
  refine .mk (fun _ h => h) ?_ ?_
  · intro entry h
    cases h
  · intro entry h
    cases h

/-- A directive that selects a node is known there. -/
theorem Marked.hasInSubtree_of_isSelected (h : node.Marked) {kind : Kind}
    (hselected : node.isSelected kind = true) : node.hasInSubtree kind = true := by
  cases h with
  | mk hself hchildren hknown => exact hself kind hselected

/-! ## Children -/

/-- What a concrete key leads to is the child of some segment. -/
theorem child?_of_matchChild {name : String} (h : node.matchChild name = some child) :
    ∃ segment, node.child? segment = some child := by
  unfold matchChild at h
  split at h
  · next found hfound => exact ⟨.key name, hfound.trans h⟩
  · exact ⟨.wildcard, h⟩

/-- What a concrete key leads to is one of the children. -/
theorem mem_children_of_matchChild {name : String} (h : node.matchChild name = some child) :
    ∃ segment, (segment, child) ∈ node.children := by
  obtain ⟨segment, hchild⟩ := child?_of_matchChild h
  obtain ⟨before, after, hchildren, -⟩ := List.lookup_eq_some_iff.mp hchild
  exact ⟨segment, by simp [hchildren]⟩

/-- The nodes below are marked too. -/
theorem Marked.of_matchChild (h : node.Marked) {name : String}
    (hchild : node.matchChild name = some child) : child.Marked := by
  obtain ⟨segment, hmem⟩ := mem_children_of_matchChild hchild
  cases h with
  | mk hself hchildren hknown => exact hchildren _ hmem

/-- A directive that is not known at a node is not known at its children. -/
theorem Marked.hasInSubtree_of_matchChild (h : node.Marked) {name : String} {kind : Kind}
    (hchild : node.matchChild name = some child) (hknown : child.hasInSubtree kind = true) :
    node.hasInSubtree kind = true := by
  obtain ⟨segment, hmem⟩ := mem_children_of_matchChild hchild
  cases h with
  | mk hself hchildren hup => exact hup _ hmem kind hknown

/-! ## Insertion -/

/-- An entry of a changed list of children was there before, or is the one that was changed. -/
theorem mem_upsert {segment : Segment} {update : Option Node → Node}
    {children : List (Segment × Node)} {entry : Segment × Node}
    (h : entry ∈ upsert segment update children) :
    entry ∈ children ∨ entry.2 = update none ∨ ∃ old ∈ children, entry.2 = update (some old.2) := by
  induction children with
  | nil =>
      rw [upsert, List.mem_singleton] at h
      exact .inr (.inl (h ▸ rfl))
  | cons first rest ih =>
      obtain ⟨other, node⟩ := first
      unfold upsert at h
      split_ifs at h with hsame hbefore
      · rcases List.mem_cons.mp h with rfl | hrest
        · exact .inr (.inr ⟨(other, node), List.mem_cons_self, rfl⟩)
        · exact .inl (List.mem_cons_of_mem _ hrest)
      · rcases List.mem_cons.mp h with rfl | hold
        · exact .inr (.inl rfl)
        · exact .inl hold
      · rcases List.mem_cons.mp h with rfl | hrest
        · exact .inl List.mem_cons_self
        · rcases ih hrest with hold | hnew | ⟨old, hold, hupdate⟩
          · exact .inl (List.mem_cons_of_mem _ hold)
          · exact .inr (.inl hnew)
          · exact .inr (.inr ⟨old, List.mem_cons_of_mem _ hold, hupdate⟩)

/-- The directive of a pointer is known at every node that the pointer leads through. -/
@[simp] theorem hasInSubtree_insert (kind other : Kind) (segments : List Segment) (node : Node) :
    (node.insert kind segments).hasInSubtree other =
      (decide (kind = other) || node.hasInSubtree other) := by
  cases node
  cases segments <;> exact Selection.contains_insert _ _ _

/-- An insertion leaves the nodes marked. -/
theorem Marked.insert (h : node.Marked) (kind : Kind) (segments : List Segment) :
    Marked (node.insert kind segments) := by
  induction segments generalizing node with
  | nil =>
      cases h with
      | mk hself hchildren hknown =>
          refine .mk (fun other hother => ?_) hchildren fun entry hentry other hother => ?_
          · rw [Selection.contains_insert, Bool.or_eq_true] at hother ⊢
            exact hother.imp_right (hself other)
          · rw [Selection.contains_insert, hknown entry hentry other hother, Bool.or_true]
  | cons segment rest ih =>
      cases h with
      | @mk pointer selected inSubtree children hself hchildren hknown =>
          have hmade : Marked (Node.empty (pointer ++ "/" ++ segment.text)) := .empty _
          refine .mk (fun other hother => ?_) (fun entry hentry => ?_)
            fun entry hentry other hother => ?_
          · rw [Selection.contains_insert, hself other hother, Bool.or_true]
          · rcases mem_upsert hentry with hold | hnew | ⟨old, hold, hupdate⟩
            · exact hchildren entry hold
            · rw [hnew]
              exact ih hmade
            · rw [hupdate]
              exact ih (hchildren old hold)
          · rw [Selection.contains_insert, Bool.or_eq_true]
            rcases mem_upsert hentry with hold | hnew | ⟨old, hold, hupdate⟩
            · exact .inr (hknown entry hold other hother)
            · rw [hnew, hasInSubtree_insert, Bool.or_eq_true] at hother
              exact hother.imp_right fun hempty => absurd hempty (by simp)
            · rw [hupdate, hasInSubtree_insert, Bool.or_eq_true] at hother
              exact hother.imp_right (hknown old hold other)

end Node

/-! ## Trees -/

namespace SelectorTree

/-- What holds of the tree without pointers and is preserved by insertions holds of every tree that
is built. -/
theorem build_induction {P : SelectorTree → Prop} (hempty : P empty)
    (hinsert : ∀ tree pointer kind, P tree → P (tree.insert pointer kind))
    (preload fields : List String) : P (build preload fields) := by
  have hfold : ∀ (kind : Kind) (pointers : List String) (tree : SelectorTree), P tree →
      P (pointers.foldl (fun tree pointer => tree.insert pointer kind) tree) := by
    intro kind pointers
    induction pointers with
    | nil => exact fun tree h => h
    | cons pointer rest ih => exact fun tree h => ih _ (hinsert tree pointer kind h)
  exact hfold .fields fields _ (hfold .preload preload _ hempty)

/-- The nodes of every tree that is built are marked. -/
theorem marked_build (preload fields : List String) : (build preload fields).root.Marked :=
  build_induction (P := fun tree => tree.root.Marked) (.empty "")
    (fun _ _ kind h => h.insert kind _) preload fields

end SelectorTree

end Hypermedia
