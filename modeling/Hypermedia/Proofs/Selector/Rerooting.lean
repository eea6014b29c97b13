import Hypermedia.Proofs.Selector.Listing

/-!
# The selections that go along with a relation

A relation that is asked for is requested with the selections below its node, written as pointers
relative to it. The resource that answers is walked with the tree of these pointers.

* `Node.rerooted` is the tree that is read from them, `SelectorTree.means_rerooted` what it stands
  for: the same paths, without the empty keys that they start with, because a pointer is read
  without the slashes at its start.
* `SelectorTree.follow?_rerooted` is the case where no path goes on with an empty key: the tree
  selects what is selected below the node. `SelectorTree.not_follow?_rerooted` shows that the other
  case is real.
-/

namespace Hypermedia

/-! ## Writing and reading relative pointers -/

namespace Segment

/-- An empty key at the start of a pointer is not read. -/
theorem ofPointer_render_empty_cons (rest : List Segment) :
    ofPointer (render (key "" :: rest)) = ofPointer (render rest) := by
  have hchars : chars (key "" :: rest) = '/' :: chars rest := rfl
  have htrim : Text.trimEnds '/' ('/' :: chars rest) = Text.trimEnds '/' (chars rest) := rfl
  unfold ofPointer
  rw [toList_render, toList_render, hchars, htrim]

/-- What is written is read back without the empty keys at its start. -/
theorem ofPointer_render_eq_dropWhile {path : List Segment}
    (hstar : ∀ segment ∈ path, segment ≠ key "*") (hlast : path.getLast? ≠ some (key "")) :
    ofPointer (render path) = path.dropWhile fun segment => segment = key "" := by
  induction path with
  | nil => rfl
  | cons segment rest ih =>
      by_cases hempty : segment = key ""
      · subst hempty
        have hrest : rest.getLast? ≠ some (key "") := by
          intro hkey
          apply hlast
          rw [List.getLast?_cons, hkey, Option.getD_some]
        have hread := ih (fun segment hmem => hstar segment (List.mem_cons_of_mem _ hmem)) hrest
        rw [ofPointer_render_empty_cons, hread]
        rfl
      · have hwritable : Writable (segment :: rest) := by
          refine ⟨hstar, ?_, hlast⟩
          intro hhead
          exact hempty (Option.some.inj hhead)
        rw [ofPointer_render hwritable, List.dropWhile_cons, if_neg]
        simpa using hempty

end Segment

namespace Node

open Segment

variable {node : Node} {kind : Kind} {pointer : String}

/-! ## The tree of the pointers below a node -/

/-- The tree that is read from the pointers below a node. -/
def rerooted (node : Node) : SelectorTree :=
  .build (node.subSelectors .preload) (node.subSelectors .fields)

/-- The pointers below a node are inserted into the tree that is read from them. -/
theorem mem_insertsOf_subSelectors :
    (pointer, kind) ∈
        SelectorTree.insertsOf (node.subSelectors .preload) (node.subSelectors .fields) ↔
      pointer ∈ node.subSelectors kind := by
  rw [SelectorTree.mem_insertsOf]
  cases kind with
  | preload => simp
  | fields => simp

/-- The tree that is read from the pointers below a node stands for the paths below it, as they are
read. -/
theorem Means.rerooted {asked : Asked} (h : node.Means asked) (hsorted : node.Sorted) :
    node.rerooted.root.Means fun path kind =>
      ∃ below, below ≠ [] ∧ asked below kind ∧ ofPointer (render below) = path := by
  refine (SelectorTree.means_build _ _).congr ?_
  intro path kind
  constructor
  · rintro ⟨pointer, hmem, hread⟩
    rw [mem_insertsOf_subSelectors, h.mem_subSelectors hsorted] at hmem
    obtain ⟨below, hne, hbelow, rfl⟩ := hmem
    exact ⟨below, hne, hbelow, hread⟩
  · rintro ⟨below, hne, hbelow, hread⟩
    refine ⟨render below, ?_, hread⟩
    rw [mem_insertsOf_subSelectors, h.mem_subSelectors hsorted]
    exact ⟨below, hne, hbelow, rfl⟩

end Node

namespace SelectorTree

open Segment

/-- A node of a tree that is built stands for the rest of the paths that go through it. -/
theorem means_of_descend? {preload fields : List String} {path : List Segment} {node : Node}
    (hnode : (build preload fields).root.descend? path = some node) :
    node.Means fun below kind => asked (insertsOf preload fields) (path ++ below) kind :=
  (means_build preload fields).descend? hnode

/-- The nodes of a tree that is built are sorted. -/
theorem sorted_of_descend? {preload fields : List String} {path : List Segment} {node : Node}
    (hnode : (build preload fields).root.descend? path = some node) : node.Sorted := by
  rw [build_eq_ofInserts] at hnode
  exact (sorted_ofInserts _).descend? hnode

/-- The tree that goes along with a relation stands for the paths below the node, without the empty
keys that they start with. -/
theorem means_rerooted {preload fields : List String} {path : List Segment} {node : Node}
    (hnode : (build preload fields).root.descend? path = some node) :
    node.rerooted.root.Means fun read kind =>
      ∃ below, below ≠ [] ∧ asked (insertsOf preload fields) (path ++ below) kind ∧
        below.dropWhile (fun segment => segment = .key "") = read := by
  refine ((means_of_descend? hnode).rerooted (sorted_of_descend? hnode)).congr ?_
  intro read kind
  -- A path that is asked for does not end with an empty key, so nothing is lost at its end.
  refine exists_congr fun below => and_congr_right fun hne => and_congr_right fun hasked => ?_
  have hwritable := writable_of_asked hasked
  rw [ofPointer_render_eq_dropWhile]
  · intro segment hsegment
    exact hwritable.ne_star segment (List.mem_append_right _ hsegment)
  · have hlast := hwritable.getLast?_ne
    rwa [List.getLast?_append_of_ne_nil _ hne] at hlast

/-- The selections that go along with a relation select in the related resource what is selected
below the node of the relation, for every key sequence: it leads to a node from there exactly if it
leads to one from the node, and the two are selected by the same directives, at the node and below.
No pointer may go on with an empty key from the node. -/
theorem follow?_rerooted {preload fields : List String} {path : List Segment} {node : Node}
    (hnode : (build preload fields).root.descend? path = some node)
    (hempty : node.child? (.key "") = none) (name : String) (rest : List String) :
    Option.Rel Node.SelectsAs (node.rerooted.root.follow? (name :: rest))
      (node.follow? (name :: rest)) := by
  have hmeans := means_of_descend? hnode
  have hread : ∀ below kind, asked (insertsOf preload fields) (path ++ below) kind →
      below.dropWhile (fun segment => segment = .key "") = below := by
    intro below kind hasked
    have hhead : below.head? ≠ some (.key "") := by
      intro hhead
      obtain ⟨more, rfl⟩ := List.head?_eq_some_iff.mp hhead
      exact hmeans.not_through_of_child? hempty ⟨kind, more, hasked⟩
    exact Text.dropWhile_of_head?_ne hhead
  refine (means_rerooted hnode).follow?_cons_rel hmeans ?_ (Node.Means.follow?_rel rest) name
  intro segment
  apply Node.Asked.ext
  intro below kind
  constructor
  · rintro ⟨written, -, hasked, hpath⟩
    rw [hread written kind hasked] at hpath
    subst hpath
    exact hasked
  · intro hasked
    exact ⟨segment :: below, List.cons_ne_nil _ _, hasked, hread (segment :: below) kind hasked⟩

/-- The selections below an author: the name, and every friend. -/
theorem follow?_rerooted_author : ∃ node,
    (build ["/author/friends/*"] ["/author/name"]).root.descend? [.key "author"] = some node ∧
      node.child? (.key "") = none ∧
      Option.Rel Node.SelectsAs (node.rerooted.root.follow? ["friends", "0"])
        (node.follow? ["friends", "0"]) := by
  have hsome : ((build ["/author/friends/*"] ["/author/name"]).root.descend?
      [.key "author"]).isSome = true := by decide
  have hnone : (((build ["/author/friends/*"] ["/author/name"]).root.descend?
      [.key "author"]).bind (·.child? (.key ""))).isNone = true := by decide
  obtain ⟨node, hnode⟩ := Option.isSome_iff_exists.mp hsome
  rw [hnode, Option.bind_some, Option.isNone_iff_eq_none] at hnone
  exact ⟨node, hnode, hnone, follow?_rerooted hnode hnone "friends" ["0"]⟩

/-- Without the condition it does not hold. Below the key `a` of the pointer `/a//b` there is the
empty key and then `b`, and the pointer that is written for this, `//b`, is read as `b` alone. -/
theorem not_follow?_rerooted :
    ¬∀ (preload fields : List String) (path : List Segment) (node : Node),
      (build preload fields).root.descend? path = some node →
        ∀ (name : String) (rest : List String),
          Option.Rel Node.SelectsAs (node.rerooted.root.follow? (name :: rest))
            (node.follow? (name :: rest)) := by
  intro h
  have hsome : ((build ["/a//b"] []).root.descend? [.key "a"]).isSome = true := by decide
  have hnone : (((build ["/a//b"] []).root.descend? [.key "a"]).bind
      (·.follow? ["b"])).isNone = true := by decide
  have hfound : (((build ["/a//b"] []).root.descend? [.key "a"]).bind
      (·.rerooted.root.follow? ["b"])).isSome = true := by decide
  obtain ⟨node, hnode⟩ := Option.isSome_iff_exists.mp hsome
  have hrel := h ["/a//b"] [] [.key "a"] node hnode "b" []
  rw [hnode, Option.bind_some] at hnone hfound
  rw [Option.isNone_iff_eq_none.mp hnone] at hrel
  obtain ⟨found, hfound⟩ := Option.isSome_iff_exists.mp hfound
  rw [hfound] at hrel
  cases hrel

end SelectorTree

end Hypermedia
