import Mathlib.Data.List.Basic
import Hypermedia.Proofs.Selector.Meaning
import Hypermedia.Proofs.Selector.Pointer
import Hypermedia.Proofs.Text.ByteOrder

/-!
# The order of the selections below a node

The selections below a node are listed as pointers. What is listed are paths: a node comes before
the nodes below it, and these before the nodes beside it.

* `Segment.Precedes` is the order of the children of a node, in terms of bytes.
* `Node.pathsUnder` are the paths that are listed, `Node.subSelectors_eq_map` how they are written.
* `Node.mem_pathsUnder` says which paths are listed, `Node.pairwise_pathsUnder` in which order.
-/

namespace Hypermedia

namespace Segment

/-! ## Segments and paths -/

/-- Keys come in the order of their bytes, and the wildcard after them. -/
def Precedes : Segment → Segment → Prop
  | key a, key b => Bytes.ofString a < Bytes.ofString b
  | key _, wildcard => True
  | wildcard, _ => False

/-- The children of a node are in the order of bytes. -/
theorem before_iff_precedes {a b : Segment} : a.before b = true ↔ a.Precedes b := by
  cases a with
  | wildcard => exact iff_of_false Bool.false_ne_true id
  | key first =>
      cases b with
      | wildcard => exact iff_of_true rfl trivial
      | key second => exact decide_eq_true_iff.trans (Bytes.ofString_lt_iff first second).symm

/-- No segment precedes itself. -/
theorem not_precedes_self (segment : Segment) : ¬segment.Precedes segment := by
  rw [← before_iff_precedes, before_self]
  exact Bool.false_ne_true

/-- Two paths that are written in the same way are the same, if no key has the text of the wildcard.
-/
theorem render_injOn {path other : List Segment} (hpath : ∀ segment ∈ path, segment ≠ key "*")
    (hother : ∀ segment ∈ other, segment ≠ key "*") (h : render path = render other) :
    path = other := by
  have hread : ∀ path : List Segment, (∀ segment ∈ path, segment ≠ key "*") →
      ((Text.splitOn '/' (chars path)).tail.map ofPiece) = path := by
    intro path hstar
    cases path with
    | nil => rfl
    | cons segment rest =>
        have hcut : Text.splitOn '/' (chars (segment :: rest)) =
            [] :: Text.splitOn '/' (segment.text.toList ++ chars rest) := rfl
        rw [hcut, splitOn_text_append_chars, List.tail_cons, List.map_map]
        conv_rhs => rw [← List.map_id (segment :: rest)]
        exact List.map_congr_left fun other hmem => ofPiece_text (hstar other hmem)
  have hchars : chars path = chars other := by
    rw [← toList_render, ← toList_render, h]
  rw [← hread path hpath, hchars, hread other hother]

end Segment

namespace Node

open Segment

variable {node child : Node} {kind : Kind}

/-! ## The paths below a node -/

mutual

/-- The paths below a node that a directive selects, each before those that go on from it. -/
def pathsUnder (kind : Kind) : Node → List (List Segment)
  | mk _ _ _ children => branchPaths kind children

/-- The paths that a directive selects at some children and below them. -/
def branchPaths (kind : Kind) : List (Segment × Node) → List (List Segment)
  | [] => []
  | (segment, child) :: rest =>
    let found :=
      if child.hasInSubtree kind then
        (if child.isSelected kind then [[]] else []) ++ pathsUnder kind child
      else []
    found.map (segment :: ·) ++ branchPaths kind rest

end

mutual

/-- The pointers that are listed below a node are those of the paths. -/
theorem selectorsUnder_eq_map (kind : Kind) (start : String) : (node : Node) →
    selectorsUnder kind start node = (pathsUnder kind node).map (renderFrom start)
  | mk _ _ _ children => by
      rw [selectorsUnder, pathsUnder]
      exact branchSelectors_eq_map kind start children

/-- The same of some children of a node. -/
theorem branchSelectors_eq_map (kind : Kind) (start : String) :
    (children : List (Segment × Node)) →
      branchSelectors kind start children = (branchPaths kind children).map (renderFrom start)
  | [] => rfl
  | (segment, child) :: rest => by
      have hunder := selectorsUnder_eq_map kind (start ++ "/" ++ segment.text) child
      have hstart : ∀ path, renderFrom start (segment :: path) =
          renderFrom (start ++ "/" ++ segment.text) path := fun _ => rfl
      rw [branchSelectors, branchPaths, branchSelectors_eq_map kind start rest, List.map_append,
        List.map_map, hunder]
      simp only [Function.comp_def, hstart]
      split_ifs <;> rfl

end

/-- The selections below a node are the paths below it, written as pointers. -/
theorem subSelectors_eq_map (node : Node) (kind : Kind) :
    node.subSelectors kind = (node.pathsUnder kind).map render :=
  selectorsUnder_eq_map kind "" node

/-! ## Which paths are listed -/

/-- The paths that are listed at a child and below it, given those below it. -/
theorem Means.mem_found {asked : Asked} (h : child.Means asked) {under : List (List Segment)}
    {path : List Segment} (hunder : path ∈ under ↔ path ≠ [] ∧ asked path kind) :
    path ∈ (if child.hasInSubtree kind then
        (if child.isSelected kind then [[]] else []) ++ under else []) ↔ asked path kind := by
  have hself := h.isSelected [] child rfl kind
  have hknown : child.hasInSubtree kind = true ↔ ∃ rest, asked rest kind :=
    h.hasInSubtree [] child rfl kind
  have hhere : path ∈ (if child.isSelected kind then [[]] else []) ↔
      path = [] ∧ asked path kind := by
    by_cases hselected : child.isSelected kind = true
    · rw [if_pos hselected, List.mem_singleton]
      refine ⟨fun hnil => ⟨hnil, ?_⟩, And.left⟩
      rw [hnil]
      exact hself.mp hselected
    · rw [if_neg hselected]
      refine iff_of_false List.not_mem_nil ?_
      rintro ⟨rfl, hasked⟩
      exact hselected (hself.mpr hasked)
  by_cases hin : child.hasInSubtree kind = true
  · rw [if_pos hin, List.mem_append, hhere, hunder, ← or_and_right]
    exact and_iff_right (eq_or_ne path [])
  · rw [if_neg hin]
    exact iff_of_false List.not_mem_nil fun hasked => hin (hknown.mpr ⟨path, hasked⟩)

mutual

/-- The paths that are listed below a node are those that are asked for below it. -/
theorem mem_pathsUnder (kind : Kind) (path : List Segment) :
    (node : Node) → {asked : Asked} → node.Means asked → node.Sorted →
      (path ∈ pathsUnder kind node ↔ path ≠ [] ∧ asked path kind)
  | mk pointer selected inSubtree children, asked, hmeans, hsorted => by
      have hchild : ∀ segment child, (segment, child) ∈ children →
          (mk pointer selected inSubtree children).child? segment = some child := by
        intro segment child hmem
        exact hsorted.child?_eq_some_iff.mpr hmem
      rw [pathsUnder, mem_branchPaths kind path children
        (fun segment child hmem => hmeans.child? (hchild segment child hmem))
        (fun segment child hmem => hsorted.child? (hchild segment child hmem))]
      constructor
      · rintro ⟨segment, child, rest, -, rfl, hasked⟩
        exact ⟨List.cons_ne_nil _ _, hasked⟩
      · rintro ⟨hne, hasked⟩
        obtain ⟨segment, rest, rfl⟩ := List.exists_cons_of_ne_nil hne
        have hsome := (hmeans.isSome_child? segment).mpr ⟨kind, rest, hasked⟩
        obtain ⟨child, hfound⟩ := Option.isSome_iff_exists.mp hsome
        exact ⟨segment, child, rest, hsorted.child?_eq_some_iff.mp hfound, rfl, hasked⟩

/-- The same of some children of a node. -/
theorem mem_branchPaths (kind : Kind) (path : List Segment) :
    (children : List (Segment × Node)) → {asked : Asked} →
    (∀ segment child, (segment, child) ∈ children → child.Means (asked.below segment)) →
    (∀ segment child, (segment, child) ∈ children → child.Sorted) →
      (path ∈ branchPaths kind children ↔
        ∃ segment child rest, (segment, child) ∈ children ∧ path = segment :: rest ∧
          asked path kind)
  | [], _, _, _ => by
      simp [branchPaths]
  | (segment, child) :: more, asked, hmeans, hsorted => by
      have hhead := hmeans segment child List.mem_cons_self
      have hfound := fun rest => hhead.mem_found
        (mem_pathsUnder kind rest child hhead (hsorted segment child List.mem_cons_self))
      have hmore := mem_branchPaths kind path more
        (fun segment child hmem => hmeans segment child (List.mem_cons_of_mem _ hmem))
        (fun segment child hmem => hsorted segment child (List.mem_cons_of_mem _ hmem))
      rw [branchPaths, List.mem_append, List.mem_map, hmore]
      constructor
      · rintro (⟨rest, hrest, rfl⟩ | ⟨next, other, rest, hmem, hpath, hasked⟩)
        · exact ⟨segment, child, rest, List.mem_cons_self, rfl, (hfound rest).mp hrest⟩
        · exact ⟨next, other, rest, List.mem_cons_of_mem _ hmem, hpath, hasked⟩
      · rintro ⟨next, other, rest, hmem, rfl, hasked⟩
        rcases List.mem_cons.mp hmem with heq | hmem
        · obtain ⟨rfl, rfl⟩ := Prod.mk.inj heq
          exact .inl ⟨rest, (hfound rest).mpr hasked, rfl⟩
        · exact .inr ⟨next, other, rest, hmem, rfl, hasked⟩

end

/-- The pointers below a node are those of the paths that are asked for below it. -/
theorem Means.mem_subSelectors {pointer : String} {asked : Asked} (h : node.Means asked)
    (hsorted : node.Sorted) :
    pointer ∈ node.subSelectors kind ↔
      ∃ path, path ≠ [] ∧ asked path kind ∧ pointer = render path := by
  rw [subSelectors_eq_map, List.mem_map]
  refine exists_congr fun path => ?_
  rw [mem_pathsUnder kind path node h hsorted, and_assoc, eq_comm]

/-! ## In which order they are listed -/

/-- A path that is listed starts with the segment of a child. -/
theorem exists_of_mem_branchPaths {path : List Segment} {children : List (Segment × Node)}
    (h : path ∈ branchPaths kind children) :
    ∃ entry ∈ children, ∃ rest, path = entry.1 :: rest := by
  induction children with
  | nil => cases h
  | cons first more ih =>
      obtain ⟨segment, child⟩ := first
      rw [branchPaths, List.mem_append, List.mem_map] at h
      rcases h with ⟨rest, -, rfl⟩ | hmore
      · exact ⟨(segment, child), List.mem_cons_self, rest, rfl⟩
      · obtain ⟨entry, hentry, rest, hpath⟩ := ih hmore
        exact ⟨entry, List.mem_cons_of_mem _ hentry, rest, hpath⟩

/-- No path that is listed below a node is that of the node. -/
theorem ne_nil_of_mem_pathsUnder {path : List Segment} (h : path ∈ node.pathsUnder kind) :
    path ≠ [] := by
  cases node with
  | mk pointer selected inSubtree children =>
      rw [pathsUnder] at h
      obtain ⟨entry, -, rest, rfl⟩ := exists_of_mem_branchPaths h
      exact List.cons_ne_nil _ _

mutual

/-- The paths below a node are listed in pre-order: a node before those below it, and what is below a
child before what is below the next one. -/
theorem pairwise_pathsUnder (kind : Kind) : (node : Node) → node.Sorted →
    (pathsUnder kind node).Pairwise (List.Lex Precedes)
  | mk _ _ _ children, hsorted => by
      rw [pathsUnder]
      cases hsorted with
      | mk horder hchildren => exact pairwise_branchPaths kind children horder hchildren

/-- The same of children in order. -/
theorem pairwise_branchPaths (kind : Kind) : (children : List (Segment × Node)) →
    children.Pairwise (fun a b => a.1.before b.1 = true) → (∀ entry ∈ children, entry.2.Sorted) →
      (branchPaths kind children).Pairwise (List.Lex Precedes)
  | [], _, _ => .nil
  | (segment, child) :: more, horder, hsorted => by
      obtain ⟨hfirst, hrest⟩ := List.pairwise_cons.mp horder
      have hunder := pairwise_pathsUnder kind child (hsorted _ List.mem_cons_self)
      have hmore := pairwise_branchPaths kind more hrest
        (fun entry hentry => hsorted entry (List.mem_cons_of_mem _ hentry))
      rw [branchPaths, List.pairwise_append, List.pairwise_map]
      refine ⟨?_, hmore, ?_⟩
      · refine List.Pairwise.imp (R := List.Lex Precedes) (fun hlex => .cons hlex) ?_
        split_ifs
        · refine List.pairwise_append.mpr ⟨List.pairwise_singleton _ _, hunder, ?_⟩
          intro self hself path hpath
          obtain ⟨next, rest, rfl⟩ := List.exists_cons_of_ne_nil (ne_nil_of_mem_pathsUnder hpath)
          rw [List.mem_singleton.mp hself]
          exact .nil
        · exact hunder
        · exact .nil
      · intro path hpath other hother
        obtain ⟨rest, -, rfl⟩ := List.mem_map.mp hpath
        obtain ⟨entry, hentry, more, rfl⟩ := exists_of_mem_branchPaths hother
        exact .rel (before_iff_precedes.mp (hfirst entry hentry))

end

end Node

/-- A path that is asked for can be written and read back, because it was read from a pointer. -/
theorem SelectorTree.writable_of_asked {inserts : List (String × Kind)} {path : List Segment}
    {kind : Kind} (h : asked inserts path kind) : Segment.Writable path := by
  obtain ⟨pointer, -, rfl⟩ := h
  exact Segment.writable_ofPointer pointer

end Hypermedia
