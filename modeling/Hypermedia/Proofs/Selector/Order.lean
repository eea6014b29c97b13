import Mathlib.Data.List.Basic
import Hypermedia.Proofs.Selector.Tree

/-!
# Children in order

The children of a node are kept in the order of their segments, so that each segment has one child
at most.

* `Segment.before` is a strict order, and any two segments are ordered.
* `Node.Sorted` are the nodes whose children are in order, and all nodes below are like that.
* `Node.Sorted.insert` is the step of an insertion, and `Node.Sorted.child?_insert_cons` says which
  children it leaves as they were.
-/

namespace Hypermedia

/-! ## The order of segments -/

namespace Segment

/-- No segment comes before itself. -/
@[simp] theorem before_self (segment : Segment) : segment.before segment = false := by
  cases segment with
  | key name => exact decide_eq_false (String.lt_irrefl name)
  | wildcard => rfl

/-- The order of segments is transitive. -/
theorem before_trans {a b c : Segment} (hab : a.before b = true) (hbc : b.before c = true) :
    a.before c = true := by
  cases a with
  | wildcard => cases hab
  | key first =>
      cases c with
      | wildcard => rfl
      | key last =>
          cases b with
          | wildcard => cases hbc
          | key middle =>
              exact decide_eq_true (String.lt_trans (of_decide_eq_true hab) (of_decide_eq_true hbc))

/-- Of two segments one comes before the other. -/
theorem before_of_not_before {a b : Segment} (hne : a ≠ b) (h : a.before b = false) :
    b.before a = true := by
  cases a with
  | wildcard =>
      cases b with
      | wildcard => exact absurd rfl hne
      | key name => rfl
  | key first =>
      cases b with
      | wildcard => cases h
      | key second =>
          have hle : second ≤ first := String.not_lt.mp (of_decide_eq_false h)
          apply decide_eq_true
          refine Decidable.byContradiction fun hlt => ?_
          have heq : first = second := String.le_antisymm (String.not_lt.mp hlt) hle
          exact hne (congrArg key heq)

end Segment

namespace Node

/-! ## Sorted nodes -/

/-- The children are in the order of their segments, each segment once. The same holds of all nodes
below. -/
inductive Sorted : Node → Prop where
  /-- A node with its children. -/
  | mk {pointer : String} {selected inSubtree : Selection} {children : List (Segment × Node)}
      (horder : children.Pairwise fun a b => a.1.before b.1 = true)
      (hchildren : ∀ entry ∈ children, Sorted entry.2) :
      Sorted (mk pointer selected inSubtree children)

variable {node child : Node}

/-- A node that nothing selects yet. -/
theorem Sorted.empty (pointer : String) : Sorted (empty pointer) := by
  refine .mk List.Pairwise.nil ?_
  intro entry h
  cases h

/-- The children of a sorted node are in order. -/
theorem Sorted.pairwise (h : node.Sorted) :
    node.children.Pairwise fun a b => a.1.before b.1 = true := by
  cases h with
  | mk horder hchildren => exact horder

/-- An entry of a list without the segment in front is found there if it is found at all. -/
theorem lookup_eq_none_of_before {segment : Segment} {children : List (Segment × Node)}
    (h : ∀ entry ∈ children, segment.before entry.1 = true) : children.lookup segment = none := by
  rw [List.lookup_eq_none_iff]
  intro entry hentry
  have hbefore := h entry hentry
  rw [bne_iff_ne]
  rintro rfl
  rw [Segment.before_self] at hbefore
  cases hbefore

/-- In a sorted list of children every entry is the one of its segment. -/
theorem lookup_eq_some_of_mem {segment : Segment} {children : List (Segment × Node)}
    (horder : children.Pairwise fun a b => a.1.before b.1 = true)
    (h : (segment, child) ∈ children) : children.lookup segment = some child := by
  obtain ⟨front, back, rfl⟩ := List.append_of_mem h
  refine List.lookup_eq_some_iff.mpr ⟨front, back, rfl, fun entry hentry => ?_⟩
  have hbefore : entry.1.before segment = true :=
    (List.pairwise_append.mp horder).2.2 entry hentry _ List.mem_cons_self
  rw [bne_iff_ne]
  rintro rfl
  rw [Segment.before_self] at hbefore
  cases hbefore

/-- The child of a segment is one of the entries of a sorted node, and the only one of the segment.
-/
theorem Sorted.child?_eq_some_iff (h : node.Sorted) {segment : Segment} :
    node.child? segment = some child ↔ (segment, child) ∈ node.children := by
  constructor
  · intro hlookup
    obtain ⟨front, back, hchildren, -⟩ := List.lookup_eq_some_iff.mp hlookup
    rw [hchildren]
    exact List.mem_append_right _ List.mem_cons_self
  · exact lookup_eq_some_of_mem h.pairwise

/-- The children of a sorted node are sorted. -/
theorem Sorted.child? (h : node.Sorted) {segment : Segment}
    (hchild : node.child? segment = some child) : child.Sorted := by
  have hmem := h.child?_eq_some_iff.mp hchild
  cases h with
  | mk horder hchildren => exact hchildren _ hmem

/-- The entry of a segment in a list that starts with some entry. -/
theorem lookup_cons_ite (segment other : Segment) (node : Node) (children : List (Segment × Node)) :
    ((segment, node) :: children).lookup other =
      if other = segment then some node else children.lookup other := by
  by_cases h : other = segment
  · rw [if_pos h, h, List.lookup_cons_self]
  · rw [if_neg h, List.lookup_cons, beq_eq_false_iff_ne.mpr h]

/-- A changed list of children holds the changed child, and the others as they were. -/
theorem lookup_upsert {segment : Segment} (update : Option Node → Node)
    {children : List (Segment × Node)}
    (horder : children.Pairwise fun a b => a.1.before b.1 = true) (other : Segment) :
    (upsert segment update children).lookup other =
      if other = segment then some (update (children.lookup segment))
      else children.lookup other := by
  induction children with
  | nil =>
      rw [upsert, lookup_cons_ite]
      rfl
  | cons first rest ih =>
      obtain ⟨found, node⟩ := first
      obtain ⟨hfirst, hrest⟩ := List.pairwise_cons.mp horder
      rw [lookup_cons_ite, lookup_cons_ite]
      unfold upsert
      by_cases hsame : segment = found
      · subst hsame
        rw [if_pos rfl, if_pos rfl, lookup_cons_ite]
        split <;> rfl
      · rw [if_neg hsame, if_neg hsame]
        cases hbefore : segment.before found with
        | true =>
            -- All that follows comes after the segment too, so the segment has no child yet.
            have hnone : rest.lookup segment = none := by
              apply lookup_eq_none_of_before
              intro entry hentry
              exact Segment.before_trans hbefore (hfirst entry hentry)
            rw [if_pos rfl, lookup_cons_ite, lookup_cons_ite, hnone]
        | false =>
            rw [if_neg Bool.false_ne_true, lookup_cons_ite, ih hrest]
            by_cases hother : other = segment
            · have hfound : other ≠ found := fun heq => hsame (hother.symm.trans heq)
              rw [if_neg hfound, if_pos hother, if_pos hother]
            · rw [if_neg hother, if_neg hother]

/-- The segments of a changed list of children are those that were there and the one of the changed
child. -/
theorem fst_of_mem_upsert {segment : Segment} {update : Option Node → Node}
    {children : List (Segment × Node)} {entry : Segment × Node}
    (h : entry ∈ upsert segment update children) :
    entry.1 = segment ∨ ∃ old ∈ children, entry.1 = old.1 := by
  induction children with
  | nil =>
      rw [upsert, List.mem_singleton] at h
      exact .inl (congrArg Prod.fst h)
  | cons first rest ih =>
      obtain ⟨found, node⟩ := first
      unfold upsert at h
      split_ifs at h with hsame hbefore
      · rcases List.mem_cons.mp h with rfl | hrest
        · exact .inl hsame.symm
        · exact .inr ⟨entry, List.mem_cons_of_mem _ hrest, rfl⟩
      · rcases List.mem_cons.mp h with rfl | hold
        · exact .inl rfl
        · exact .inr ⟨entry, hold, rfl⟩
      · rcases List.mem_cons.mp h with rfl | hrest
        · exact .inr ⟨(found, node), List.mem_cons_self, rfl⟩
        · rcases ih hrest with hnew | ⟨old, hold, heq⟩
          · exact .inl hnew
          · exact .inr ⟨old, List.mem_cons_of_mem _ hold, heq⟩

/-- A changed list of children is still in order. -/
theorem pairwise_upsert {segment : Segment} (update : Option Node → Node)
    {children : List (Segment × Node)}
    (horder : children.Pairwise fun a b => a.1.before b.1 = true) :
    (upsert segment update children).Pairwise fun a b => a.1.before b.1 = true := by
  induction children with
  | nil => exact List.pairwise_singleton _ _
  | cons first rest ih =>
      obtain ⟨found, node⟩ := first
      obtain ⟨hfirst, hrest⟩ := List.pairwise_cons.mp horder
      unfold upsert
      by_cases hsame : segment = found
      · rw [if_pos hsame]
        exact List.pairwise_cons.mpr ⟨hfirst, hrest⟩
      · rw [if_neg hsame]
        cases hbefore : segment.before found with
        | true =>
            rw [if_pos rfl]
            refine List.pairwise_cons.mpr ⟨?_, horder⟩
            intro entry hentry
            rcases List.mem_cons.mp hentry with rfl | hentry
            · exact hbefore
            · exact Segment.before_trans hbefore (hfirst entry hentry)
        | false =>
            rw [if_neg Bool.false_ne_true]
            refine List.pairwise_cons.mpr ⟨?_, ih hrest⟩
            intro entry hentry
            rcases fst_of_mem_upsert hentry with hnew | ⟨old, hold, heq⟩
            · rw [hnew]
              exact Segment.before_of_not_before hsame hbefore
            · rw [heq]
              exact hfirst old hold

/-- An insertion leaves the children in order. -/
theorem Sorted.insert (h : node.Sorted) (kind : Kind) (path : List Segment) :
    Sorted (node.insert kind path) := by
  induction path generalizing node with
  | nil =>
      cases h with
      | mk horder hchildren => exact .mk horder hchildren
  | cons segment rest ih =>
      cases h with
      | @mk pointer selected inSubtree children horder hchildren =>
          refine .mk (pairwise_upsert _ horder) ?_
          intro entry hentry
          rcases mem_upsert hentry with hold | hnew | ⟨old, hold, hupdate⟩
          · exact hchildren entry hold
          · rw [hnew]
            exact ih (Sorted.empty _)
          · rw [hupdate]
            exact ih (hchildren old hold)

/-- An insertion below a segment changes the child of this segment, and makes it if it is missing.
-/
theorem Sorted.child?_insert_cons (h : node.Sorted) (kind : Kind) (segment : Segment)
    (rest : List Segment) (other : Segment) :
    (node.insert kind (segment :: rest)).child? other =
      if other = segment then
        some (((node.child? segment).getD
          (Node.empty (node.pointer ++ "/" ++ segment.text))).insert kind rest)
      else node.child? other := by
  cases h with
  | mk horder hchildren => exact lookup_upsert _ horder other

/-- What an insertion finds below a segment is sorted. -/
theorem Sorted.child?_getD (h : node.Sorted) (segment : Segment) (pointer : String) :
    ((node.child? segment).getD (Node.empty pointer)).Sorted := by
  cases hfound : node.child? segment with
  | some found => exact h.child? hfound
  | none => exact .empty pointer

/-- A pointer that ends at a node selects it. -/
theorem isSelected_insert_nil (node : Node) (kind other : Kind) :
    (node.insert kind []).isSelected other = (decide (kind = other) || node.isSelected other) := by
  cases node
  exact Selection.contains_insert _ _ _

/-- A pointer that goes on does not select the node. -/
theorem isSelected_insert_cons (node : Node) (kind other : Kind) (segment : Segment)
    (rest : List Segment) :
    (node.insert kind (segment :: rest)).isSelected other = node.isSelected other := by
  cases node
  rfl

end Node

end Hypermedia
