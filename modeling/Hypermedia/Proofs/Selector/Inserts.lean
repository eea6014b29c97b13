import Mathlib.Data.List.Basic
import Hypermedia.Proofs.Selector.Listing

/-!
# Trees and their insertions

A tree depends on what was inserted alone. Neither the order of the insertions counts nor how often
one was made.

* `Node.Located` says that the nodes have the pointers of their paths; `Node.Sorted.eq_of_means` that
  a node is then determined by what it stands for.
* `SelectorTree.ofInserts_congr` are trees made by the same insertions.
* `SelectorTree.meaning_of_inserts` is what every tree says of its insertions.
-/

namespace Hypermedia

/-- A set of directives is determined by its members. -/
theorem Selection.eq_of_contains {s t : Selection} (h : ∀ kind, s.contains kind = t.contains kind) :
    s = t := by
  cases s
  cases t
  have hpreload := h .preload
  have hfields := h .fields
  simp only [Selection.contains] at hpreload hfields
  rw [hpreload, hfields]

namespace Node

open Segment

variable {node left right : Node}

/-! ## The pointers of nodes -/

/-- Every node below has the pointer of its path. -/
def Located (node : Node) : Prop :=
  ∀ path found, node.descend? path = some found → found.pointer = renderFrom node.pointer path

/-- An insertion does not move a node. -/
@[simp] theorem pointer_insert (node : Node) (kind : Kind) (path : List Segment) :
    (node.insert kind path).pointer = node.pointer := by
  cases node
  cases path <;> rfl

/-- A child has the pointer of its segment. -/
theorem Located.pointer_child? (h : node.Located) {segment : Segment} {child : Node}
    (hchild : node.child? segment = some child) :
    child.pointer = node.pointer ++ "/" ++ segment.text := by
  apply h [segment] child
  rw [descend?_cons, hchild]
  rfl

/-- The nodes below a child are located too. -/
theorem Located.child? (h : node.Located) {segment : Segment} {child : Node}
    (hchild : node.child? segment = some child) : child.Located := by
  intro path found hfound
  rw [h.pointer_child? hchild]
  apply h (segment :: path) found
  rw [descend?_cons, hchild]
  exact hfound

/-- A node is located if its children are, and have the pointers of their segments. -/
theorem Located.of_child?
    (h : ∀ segment child, node.child? segment = some child →
      child.pointer = node.pointer ++ "/" ++ segment.text ∧ child.Located) : node.Located := by
  intro path found hfound
  cases path with
  | nil =>
      obtain rfl := Option.some.inj hfound
      rfl
  | cons segment rest =>
      rw [descend?_cons] at hfound
      obtain ⟨child, hchild, hrest⟩ := Option.bind_eq_some_iff.mp hfound
      obtain ⟨hpointer, hlocated⟩ := h segment child hchild
      rw [hlocated rest found hrest, hpointer]
      rfl

/-- A node that nothing selects yet has no nodes below. -/
theorem Located.empty (pointer : String) : (empty pointer).Located := by
  apply of_child?
  intro segment child hchild
  cases hchild

/-- An insertion leaves the nodes where they are, and makes nodes with the pointers of their paths.
-/
theorem Located.insert (h : node.Located) (hsorted : node.Sorted) (kind : Kind)
    (path : List Segment) : (node.insert kind path).Located := by
  induction path generalizing node with
  | nil =>
      apply of_child?
      intro segment child hchild
      have hsame : (node.insert kind []).child? segment = node.child? segment := by
        cases node
        rfl
      rw [hsame] at hchild
      rw [pointer_insert]
      exact ⟨h.pointer_child? hchild, h.child? hchild⟩
  | cons segment rest ih =>
      apply of_child?
      intro next child hchild
      rw [hsorted.child?_insert_cons] at hchild
      rw [pointer_insert]
      by_cases hnext : next = segment
      · subst hnext
        rw [if_pos rfl, Option.some.injEq] at hchild
        subst hchild
        rw [pointer_insert]
        have hbelow := @ih ((node.child? next).getD
          (Node.empty (node.pointer ++ "/" ++ next.text)))
        cases hfound : node.child? next with
        | some found =>
            rw [hfound] at hbelow
            exact ⟨h.pointer_child? hfound, hbelow (h.child? hfound) (hsorted.child? hfound)⟩
        | none =>
            rw [hfound] at hbelow
            exact ⟨rfl, hbelow (.empty _) (.empty _)⟩
      · rw [if_neg hnext] at hchild
        exact ⟨h.pointer_child? hchild, h.child? hchild⟩

/-! ## What determines a node -/

/-- Children in order are determined by the child of each segment. -/
theorem children_ext {children others : List (Segment × Node)}
    (horder : children.Pairwise fun a b => a.1.before b.1 = true)
    (horder' : others.Pairwise fun a b => a.1.before b.1 = true)
    (h : ∀ segment child, (segment, child) ∈ children ↔ (segment, child) ∈ others) :
    children = others := by
  have hirrefl : ∀ entry : Segment × Node, ¬entry.1.before entry.1 = true := by
    intro entry
    rw [before_self]
    exact Bool.false_ne_true
  have hnodup : ∀ {entries : List (Segment × Node)},
      entries.Pairwise (fun a b => a.1.before b.1 = true) → entries.Nodup := by
    intro entries hentries
    refine hentries.imp ?_
    rintro a _ hbefore rfl
    exact hirrefl a hbefore
  have hperm : children.Perm others :=
    (List.perm_ext_iff_of_nodup (hnodup horder) (hnodup horder')).mpr fun entry => h entry.1 entry.2
  refine hperm.eq_of_pairwise ?_ horder horder'
  intro a b _ _ hab hba
  exact absurd (before_trans hab hba) (hirrefl a)

/-- A node is determined by its pointer and by what it stands for. -/
theorem Sorted.eq_of_means (hleft : left.Sorted) (hright : right.Sorted) (hlocated : left.Located)
    (hlocated' : right.Located) (hpointer : left.pointer = right.pointer) {asked : Asked}
    (hmeans : left.Means asked) (hmeans' : right.Means asked) : left = right := by
  induction hleft generalizing right asked with
  | @mk pointer selected inSubtree children horder hchildren ih =>
      have hsorted : (Node.mk pointer selected inSubtree children).Sorted := .mk horder hchildren
      -- The same segments have a child on both sides, and by induction it is the same one.
      have hsame : ∀ segment, (Node.mk pointer selected inSubtree children).child? segment =
          right.child? segment := by
        intro segment
        have hsome := (hmeans.isSome_child? segment).trans (hmeans'.isSome_child? segment).symm
        cases hchild : (Node.mk pointer selected inSubtree children).child? segment with
        | none =>
            rw [hchild, Option.isSome_none] at hsome
            exact (Option.not_isSome_iff_eq_none.mp fun h => Bool.false_ne_true (hsome.mpr h)).symm
        | some child =>
            rw [hchild] at hsome
            obtain ⟨found, hfound⟩ := Option.isSome_iff_exists.mp (hsome.mp rfl)
            rw [hfound]
            have hpointers : child.pointer = found.pointer := by
              rw [hlocated.pointer_child? hchild, hlocated'.pointer_child? hfound, hpointer]
            exact congrArg some (ih (segment, child) (hsorted.child?_eq_some_iff.mp hchild)
              (hright.child? hfound) (hlocated.child? hchild) (hlocated'.child? hfound) hpointers
              (hmeans.child? hchild) (hmeans'.child? hfound))
      have hself := hmeans.selectsAs hmeans'
      cases right with
      | mk pointer' selected' inSubtree' children' =>
          have hlist : children = children' := by
            refine children_ext horder hright.pairwise fun segment child => ?_
            have hleft : (Node.mk pointer selected inSubtree children).child? segment = some child ↔
                (segment, child) ∈ children := hsorted.child?_eq_some_iff
            rw [hsame, hright.child?_eq_some_iff] at hleft
            exact hleft.symm
          have hselected : selected = selected' :=
            Selection.eq_of_contains fun kind => (hself kind).1
          have hknown : inSubtree = inSubtree' :=
            Selection.eq_of_contains fun kind => (hself kind).2
          rw [hlist, hselected, hknown, show pointer = pointer' from hpointer]

end Node

/-! ## Trees -/

namespace SelectorTree

open Segment

/-- The nodes of every tree that is made by insertions have the pointers of their paths. -/
theorem located_ofInserts (inserts : List (String × Kind)) : (ofInserts inserts).root.Located := by
  induction inserts using List.reverseRecOn with
  | nil => exact .empty ""
  | append_singleton inserts entry ih =>
      rw [ofInserts_concat]
      exact ih.insert (sorted_ofInserts inserts) _ _

/-- The node of the whole document has the empty pointer. -/
theorem pointer_root_ofInserts (inserts : List (String × Kind)) :
    (ofInserts inserts).root.pointer = "" := by
  induction inserts using List.reverseRecOn with
  | nil => rfl
  | append_singleton inserts entry ih =>
      rw [ofInserts_concat]
      exact (Node.pointer_insert _ _ _).trans ih

/-- A document is pruned if some `fields` pointer was inserted. -/
theorem fieldsActive_ofInserts (inserts : List (String × Kind)) :
    (ofInserts inserts).fieldsActive = inserts.any (·.2 = .fields) := by
  induction inserts using List.reverseRecOn with
  | nil => rfl
  | append_singleton inserts entry ih =>
      rw [ofInserts_concat, List.any_append, ← ih, List.any_cons, List.any_nil, Bool.or_false]
      rfl

/-- The same insertions make the same tree, in any order and with any repetitions. -/
theorem ofInserts_congr {inserts others : List (String × Kind)}
    (h : ∀ entry, entry ∈ inserts ↔ entry ∈ others) : ofInserts inserts = ofInserts others := by
  have hasked : asked inserts = asked others := by
    apply Node.Asked.ext
    intro path kind
    exact exists_congr fun pointer => and_congr_left' (h (pointer, kind))
  have hroot : (ofInserts inserts).root = (ofInserts others).root := by
    refine (sorted_ofInserts inserts).eq_of_means (sorted_ofInserts others)
      (located_ofInserts inserts) (located_ofInserts others) ?_ (means_ofInserts inserts)
      (hasked ▸ means_ofInserts others)
    rw [pointer_root_ofInserts, pointer_root_ofInserts]
  have hactive : (ofInserts inserts).fieldsActive = (ofInserts others).fieldsActive := by
    rw [fieldsActive_ofInserts, fieldsActive_ofInserts, Bool.eq_iff_iff, List.any_eq_true,
      List.any_eq_true]
    exact exists_congr fun entry => and_congr_left' (h entry)
  cases hinserts : ofInserts inserts with
  | mk root fieldsActive =>
      cases hothers : ofInserts others with
      | mk root' fieldsActive' =>
          rw [hinserts, hothers] at hroot hactive
          dsimp only at hroot hactive
          rw [hroot, hactive]

/-- A path that is asked for goes through the places that it starts with. -/
theorem exists_asked_append_iff {inserts : List (String × Kind)} {path : List Segment}
    {kind : Kind} :
    (∃ rest, asked inserts (path ++ rest) kind) ↔
      ∃ pointer, (pointer, kind) ∈ inserts ∧ path <+: ofPointer pointer := by
  constructor
  · rintro ⟨rest, pointer, hmem, hpath⟩
    exact ⟨pointer, hmem, rest, hpath.symm⟩
  · rintro ⟨pointer, hmem, rest, hpath⟩
    exact ⟨rest, pointer, hmem, hpath.symm⟩

/-- No pointer is listed twice below a node. -/
theorem nodup_subSelectors {inserts : List (String × Kind)} {path : List Segment} {node : Node}
    (hnode : (ofInserts inserts).root.descend? path = some node) (kind : Kind) :
    (node.subSelectors kind).Nodup := by
  have hmeans := (means_ofInserts inserts).descend? hnode
  have hsorted := (sorted_ofInserts inserts).descend? hnode
  have hstar : ∀ below ∈ node.pathsUnder kind, ∀ segment ∈ below, segment ≠ key "*" := by
    intro below hbelow segment hsegment
    obtain ⟨-, hasked⟩ := (Node.mem_pathsUnder kind below node hmeans hsorted).mp hbelow
    exact (writable_of_asked hasked).ne_star segment (List.mem_append_right _ hsegment)
  rw [Node.subSelectors_eq_map, List.Nodup, List.pairwise_map]
  refine (Node.pairwise_pathsUnder kind node hsorted).imp_of_mem ?_
  intro below other hbelow hother hlex hsame
  obtain rfl := render_injOn (hstar below hbelow) (hstar other hother) hsame
  exact List.lex_irrefl (fun segment => segment.not_precedes_self) below hlex

/-- **What a tree says of its insertions**, whatever their order. Apart from the node of the whole
document, which is always there, there is a node at exactly the places that an inserted pointer leads
to or through. It is selected by the directives of the pointers that end there, and knows those of
the pointers that lead to it or through it. It lists each selection strictly below it once, in
pre-order with keys in the order of their bytes and the wildcard last. The same insertions in another
order, or with repetitions, make the same tree. -/
theorem meaning_of_inserts (inserts : List (String × Kind)) :
    (∀ path, ((ofInserts inserts).root.descend? path).isSome = true ↔
      path = [] ∨ ∃ entry ∈ inserts, path <+: ofPointer entry.1) ∧
    (∀ path node, (ofInserts inserts).root.descend? path = some node → ∀ kind,
      (node.isSelected kind = true ↔
        ∃ pointer, (pointer, kind) ∈ inserts ∧ ofPointer pointer = path) ∧
      (node.hasInSubtree kind = true ↔
        ∃ pointer, (pointer, kind) ∈ inserts ∧ path <+: ofPointer pointer) ∧
      (node.subSelectors kind).Nodup ∧
      ∃ below : List (List Segment), node.subSelectors kind = below.map render ∧
        below.Pairwise (List.Lex Precedes) ∧
        ∀ rest, rest ∈ below ↔
          rest ≠ [] ∧ ∃ pointer, (pointer, kind) ∈ inserts ∧ ofPointer pointer = path ++ rest) ∧
    ∀ others, (∀ entry, entry ∈ others ↔ entry ∈ inserts) →
      ofInserts others = ofInserts inserts := by
  have hmeans := means_ofInserts inserts
  refine ⟨fun path => ?_, fun path node hnode kind => ?_, fun others h => ofInserts_congr h⟩
  · by_cases hroot : path = []
    · subst hroot
      exact iff_of_true rfl (.inl rfl)
    · rw [hmeans.isSome_descend? path hroot, or_iff_right hroot]
      constructor
      · rintro ⟨kind, hasked⟩
        obtain ⟨pointer, hmem, hpath⟩ := exists_asked_append_iff.mp hasked
        exact ⟨(pointer, kind), hmem, hpath⟩
      · rintro ⟨⟨pointer, kind⟩, hmem, hpath⟩
        exact ⟨kind, exists_asked_append_iff.mpr ⟨pointer, hmem, hpath⟩⟩
  · have hsorted := (sorted_ofInserts inserts).descend? hnode
    refine ⟨hmeans.isSelected path node hnode kind,
      (hmeans.hasInSubtree path node hnode kind).trans exists_asked_append_iff,
      nodup_subSelectors hnode kind, node.pathsUnder kind, node.subSelectors_eq_map kind,
      node.pairwise_pathsUnder kind hsorted, fun rest => ?_⟩
    exact node.mem_pathsUnder kind rest (hmeans.descend? hnode) hsorted

/-- The node of the whole document is there without any insertion. -/
theorem not_isSome_descend?_iff_inserted :
    ¬∀ (inserts : List (String × Kind)) (path : List Segment),
      ((ofInserts inserts).root.descend? path).isSome = true ↔
        ∃ entry ∈ inserts, path <+: ofPointer entry.1 := by
  intro h
  obtain ⟨entry, hmem, -⟩ := (h [] []).mp rfl
  cases hmem

/-- Keys are listed in order, and a pointer that was inserted twice is listed once. -/
example :
    (ofInserts [("/b", .preload), ("/*", .fields), ("/a", .preload),
      ("/b", .preload)]).root.subSelectors .preload = ["/a", "/b"] := by
  decide

end SelectorTree

end Hypermedia
