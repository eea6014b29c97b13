import Mathlib.Data.List.Induction
import Hypermedia.Proofs.Selector.Order

/-!
# What a selector tree stands for

A tree is made by insertions, one pointer after the other. What it says of a path does not depend
on how it was made, only on the paths that are asked for.

* `Node.descend?` follows the exact segments of a path, keys and wildcards.
* `Node.Means` says what a node stands for: a set of paths for each directive. There is a node at a
  path exactly if one of these paths goes through it, and it knows which ones end there or below.
* `Node.Means.insert` is the step, `SelectorTree.means_ofInserts` what follows for whole trees.
* `Node.Means.follow?_rel` compares two nodes that stand for the same paths.
-/

namespace Hypermedia

namespace Node

variable {node child : Node}

/-! ## Paths -/

/-- Concrete keys are followed one after the other. -/
theorem follow?_cons (node : Node) (name : String) (rest : List String) :
    node.follow? (name :: rest) = (node.matchChild name).bind (·.follow? rest) := rfl

/-- Follows the exact segments of a path, keys and wildcards. -/
def descend? (node : Node) (path : List Segment) : Option Node :=
  path.foldlM child? node

@[simp] theorem descend?_nil (node : Node) : node.descend? [] = some node := rfl

@[simp] theorem descend?_cons (node : Node) (segment : Segment) (rest : List Segment) :
    node.descend? (segment :: rest) = (node.child? segment).bind (·.descend? rest) := rfl

/-- The nodes of a sorted tree are sorted. -/
theorem Sorted.descend? (h : node.Sorted) {path : List Segment}
    (hfound : node.descend? path = some child) : child.Sorted := by
  induction path generalizing node with
  | nil =>
      obtain rfl := Option.some.inj hfound
      exact h
  | cons segment rest ih =>
      rw [descend?_cons] at hfound
      obtain ⟨next, hnext, hrest⟩ := Option.bind_eq_some_iff.mp hfound
      exact ih (h.child? hnext) hrest

/-! ## What a node stands for -/

/-- What is asked for below a node: the paths of each directive, relative to the node. -/
abbrev Asked := List Segment → Kind → Prop

/-- The paths that are asked for below a segment. -/
def Asked.below (asked : Asked) (segment : Segment) : Asked :=
  fun path kind => asked (segment :: path) kind

/-- Whether some path that is asked for goes through a place or ends there. -/
def Asked.Through (asked : Asked) (path : List Segment) : Prop :=
  ∃ kind rest, asked (path ++ rest) kind

/-- Nothing is asked for. -/
def Asked.nothing : Asked := fun _ _ => False

/-- One more path is asked for. -/
def Asked.insert (asked : Asked) (kind : Kind) (path : List Segment) : Asked :=
  fun place other => asked place other ∨ place = path ∧ other = kind

namespace Asked

variable {asked other : Asked}

/-- The same paths are asked for. -/
theorem ext (h : ∀ path kind, asked path kind ↔ other path kind) : asked = other := by
  funext path kind
  exact propext (h path kind)

/-- Where no path is asked for, it is nothing. -/
theorem eq_nothing (h : ∀ path kind, ¬asked path kind) : asked = nothing := by
  apply ext
  intro path kind
  exact iff_of_false (h path kind) id

/-- A path that ends at a node asks for nothing below it. -/
theorem below_insert_nil (asked : Asked) (kind : Kind) (segment : Segment) :
    (asked.insert kind []).below segment = asked.below segment := by
  apply ext
  intro path other
  constructor
  · rintro (hasked | ⟨hnil, -⟩)
    · exact hasked
    · cases hnil
  · exact .inl

/-- A path asks for its rest below its first segment. -/
theorem below_insert_cons_self (asked : Asked) (kind : Kind) (segment : Segment)
    (rest : List Segment) :
    (asked.insert kind (segment :: rest)).below segment =
      (asked.below segment).insert kind rest := by
  apply ext
  intro path other
  unfold below insert
  rw [List.cons.injEq, and_iff_right rfl]

/-- A path asks for nothing below other segments. -/
theorem below_insert_cons_of_ne (asked : Asked) (kind : Kind) {segment next : Segment}
    (rest : List Segment) (h : next ≠ segment) :
    (asked.insert kind (segment :: rest)).below next = asked.below next := by
  apply ext
  intro path other
  constructor
  · rintro (hasked | ⟨heq, -⟩)
    · exact hasked
    · exact absurd (List.cons.inj heq).1 h
  · exact .inl

/-- Whether a path goes through a segment is told by what is asked for below it. -/
theorem through_congr {segment : Segment} (h : asked.below segment = other.below segment) :
    asked.Through [segment] ↔ other.Through [segment] := by
  have hbelow : ∀ asked : Asked,
      asked.Through [segment] ↔ ∃ kind rest, asked.below segment rest kind := fun _ => Iff.rfl
  rw [hbelow, hbelow, h]

end Asked

/-- A node stands for what is asked for: exactly the places that a path goes through have a node,
and it knows the directives with a path that ends there, and those with one that ends there or
below. -/
structure Means (node : Node) (asked : Asked) : Prop where
  /-- The places below the node that have one. -/
  isSome_descend? : ∀ path, path ≠ [] → ((node.descend? path).isSome = true ↔ asked.Through path)
  /-- The directives with a path that ends at a place. -/
  isSelected : ∀ path found, node.descend? path = some found →
    ∀ kind, found.isSelected kind = true ↔ asked path kind
  /-- The directives with a path that ends at a place or below. -/
  hasInSubtree : ∀ path found, node.descend? path = some found →
    ∀ kind, found.hasInSubtree kind = true ↔ ∃ rest, asked (path ++ rest) kind

namespace Means

variable {asked other : Asked}

/-- The same paths, said in another way. -/
theorem congr (h : node.Means asked) (heq : ∀ path kind, asked path kind ↔ other path kind) :
    node.Means other :=
  Asked.ext heq ▸ h

/-- What a node knows of itself, and what its children stand for, is what it stands for. -/
theorem of_child? (hselected : ∀ kind, node.isSelected kind = true ↔ asked [] kind)
    (hknown : ∀ kind, node.hasInSubtree kind = true ↔ ∃ rest, asked rest kind)
    (hnone : ∀ segment, node.child? segment = none → ¬asked.Through [segment])
    (hsome : ∀ segment child, node.child? segment = some child →
      asked.Through [segment] ∧ child.Means (asked.below segment)) :
    node.Means asked := by
  refine ⟨?_, ?_, ?_⟩
  · intro path hne
    obtain ⟨segment, rest, rfl⟩ := List.exists_cons_of_ne_nil hne
    rw [descend?_cons]
    cases hchild : node.child? segment with
    | none =>
        have hnot : ¬asked.Through (segment :: rest) := by
          rintro ⟨kind, more, hasked⟩
          exact hnone segment hchild ⟨kind, rest ++ more, hasked⟩
        simpa using hnot
    | some child =>
        obtain ⟨hthrough, hmeans⟩ := hsome segment child hchild
        cases rest with
        | nil => simpa using hthrough
        | cons next more => exact hmeans.isSome_descend? (next :: more) (List.cons_ne_nil _ _)
  · intro path found hfound kind
    cases path with
    | nil =>
        obtain rfl := Option.some.inj hfound
        exact hselected kind
    | cons segment rest =>
        rw [descend?_cons] at hfound
        obtain ⟨child, hchild, hrest⟩ := Option.bind_eq_some_iff.mp hfound
        exact (hsome segment child hchild).2.isSelected rest found hrest kind
  · intro path found hfound kind
    cases path with
    | nil =>
        obtain rfl := Option.some.inj hfound
        exact hknown kind
    | cons segment rest =>
        rw [descend?_cons] at hfound
        obtain ⟨child, hchild, hrest⟩ := Option.bind_eq_some_iff.mp hfound
        exact (hsome segment child hchild).2.hasInSubtree rest found hrest kind

/-- What a child stands for. -/
theorem child? (h : node.Means asked) {segment : Segment}
    (hchild : node.child? segment = some child) : child.Means (asked.below segment) := by
  have hdescend : ∀ path, node.descend? (segment :: path) = child.descend? path := by
    intro path
    rw [descend?_cons, hchild, Option.bind_some]
  refine ⟨?_, ?_, ?_⟩
  · intro path hne
    rw [← hdescend]
    exact h.isSome_descend? (segment :: path) (List.cons_ne_nil _ _)
  · intro path found hfound
    exact h.isSelected (segment :: path) found ((hdescend path).trans hfound)
  · intro path found hfound
    exact h.hasInSubtree (segment :: path) found ((hdescend path).trans hfound)

/-- What a node further down stands for. -/
theorem descend? {path : List Segment} (h : node.Means asked)
    (hfound : node.descend? path = some child) :
    child.Means fun rest kind => asked (path ++ rest) kind := by
  induction path generalizing node asked with
  | nil =>
      obtain rfl := Option.some.inj hfound
      exact h
  | cons segment rest ih =>
      rw [descend?_cons] at hfound
      obtain ⟨next, hnext, hrest⟩ := Option.bind_eq_some_iff.mp hfound
      exact ih (h.child? hnext) hrest

/-- There is a child of the segments that a path starts with. -/
theorem isSome_child? (h : node.Means asked) (segment : Segment) :
    (node.child? segment).isSome = true ↔ asked.Through [segment] := by
  have hdescend := h.isSome_descend? [segment] (List.cons_ne_nil _ _)
  rw [descend?_cons] at hdescend
  rw [← hdescend]
  cases node.child? segment <;> rfl

/-- Some path goes through every child. -/
theorem through_of_child? (h : node.Means asked) {segment : Segment}
    (hchild : node.child? segment = some child) : asked.Through [segment] := by
  rw [← h.isSome_child? segment, hchild]
  rfl

/-- No path goes where there is no child. -/
theorem not_through_of_child? (h : node.Means asked) {segment : Segment}
    (hchild : node.child? segment = none) : ¬asked.Through [segment] := by
  rw [← h.isSome_child? segment, hchild]
  exact Bool.false_ne_true

/-- Nothing is asked for of a node that nothing selects yet. -/
theorem empty (pointer : String) : (Node.empty pointer).Means .nothing := by
  refine of_child? ?_ ?_ ?_ ?_
  · intro kind
    cases kind <;> simp [Node.isSelected, Node.empty, selected, Selection.contains, Asked.nothing]
  · simp [Asked.nothing]
  · rintro segment - ⟨kind, rest, h⟩
    exact h
  · intro segment child h
    cases h

/-- What a key leads to stands for something that is asked for. -/
theorem of_matchChild (h : node.Means asked) {name : String}
    (hchild : node.matchChild name = some child) :
    ∃ below : Asked, child.Means below ∧ ∃ kind, child.hasInSubtree kind = true := by
  obtain ⟨segment, hfound⟩ := child?_of_matchChild hchild
  obtain ⟨kind, rest, hasked⟩ := h.through_of_child? hfound
  have hmeans := h.child? hfound
  exact ⟨_, hmeans, kind, (hmeans.hasInSubtree [] child rfl kind).mpr ⟨rest, hasked⟩⟩

/-- After an insertion a node knows of the path that was inserted. -/
theorem hasInSubtree_insert_iff (h : node.Means asked) (kind : Kind) (path : List Segment)
    (other : Kind) :
    (node.insert kind path).hasInSubtree other = true ↔
      ∃ place, asked.insert kind path place other := by
  rw [hasInSubtree_insert, Bool.or_eq_true, decide_eq_true_eq, h.hasInSubtree [] node rfl other]
  constructor
  · rintro (rfl | ⟨place, hplace⟩)
    · exact ⟨path, .inr ⟨rfl, rfl⟩⟩
    · exact ⟨place, .inl hplace⟩
  · rintro ⟨place, hplace | ⟨-, rfl⟩⟩
    · exact .inr ⟨place, hplace⟩
    · exact .inl rfl

/-- An insertion that ends at a node selects the node. -/
theorem insert_nil (h : node.Means asked) (kind : Kind) :
    (node.insert kind []).Means (asked.insert kind []) := by
  have hchild : ∀ segment, (node.insert kind []).child? segment = node.child? segment := by
    intro segment
    cases node
    rfl
  refine of_child? ?_ (h.hasInSubtree_insert_iff kind []) ?_ ?_
  · intro other
    rw [isSelected_insert_nil, Bool.or_eq_true, decide_eq_true_eq, h.isSelected [] node rfl]
    unfold Asked.insert
    rw [and_iff_right rfl, or_comm, eq_comm]
  · intro segment hnone
    rw [hchild] at hnone
    rw [Asked.through_congr (asked.below_insert_nil kind segment)]
    exact h.not_through_of_child? hnone
  · intro segment child hsome
    rw [hchild] at hsome
    rw [Asked.through_congr (asked.below_insert_nil kind segment), asked.below_insert_nil]
    exact ⟨h.through_of_child? hsome, h.child? hsome⟩

/-- What an insertion finds below a segment: a child, or a new node where nothing was asked for. -/
theorem child?_getD (h : node.Means asked) (segment : Segment) (pointer : String) :
    ((node.child? segment).getD (Node.empty pointer)).Means (asked.below segment) := by
  cases hfound : node.child? segment with
  | some found => exact h.child? hfound
  | none =>
      have hbelow : asked.below segment = .nothing := by
        apply Asked.eq_nothing
        intro path kind hasked
        exact h.not_through_of_child? hfound ⟨kind, path, hasked⟩
      rw [hbelow]
      exact Means.empty pointer

/-- An insertion asks for one more path. -/
theorem insert (h : node.Means asked) (hsorted : node.Sorted) (kind : Kind) (path : List Segment) :
    (node.insert kind path).Means (asked.insert kind path) := by
  -- Each node on the way gains the rest of the path; the children beside it keep their meaning.
  induction path generalizing node asked with
  | nil => exact h.insert_nil kind
  | cons segment rest ih =>
      have hchild := hsorted.child?_insert_cons kind segment rest
      refine of_child? ?_ (h.hasInSubtree_insert_iff kind (segment :: rest)) ?_ ?_
      · intro other
        rw [isSelected_insert_cons, h.isSelected [] node rfl]
        refine ⟨.inl, fun hor => hor.resolve_right ?_⟩
        rintro ⟨hnil, -⟩
        cases hnil
      · intro next hnone
        rw [hchild] at hnone
        split_ifs at hnone with hnext
        rw [Asked.through_congr (asked.below_insert_cons_of_ne kind rest hnext)]
        exact h.not_through_of_child? hnone
      · intro next child hsome
        rw [hchild] at hsome
        by_cases hnext : next = segment
        · subst hnext
          rw [if_pos rfl, Option.some.injEq] at hsome
          subst hsome
          have hmade := h.child?_getD next (node.pointer ++ "/" ++ next.text)
          have hmadeSorted := hsorted.child?_getD next (node.pointer ++ "/" ++ next.text)
          rw [asked.below_insert_cons_self]
          exact ⟨⟨kind, rest, .inr ⟨rfl, rfl⟩⟩, ih hmade hmadeSorted⟩
        · rw [if_neg hnext] at hsome
          rw [Asked.through_congr (asked.below_insert_cons_of_ne kind rest hnext),
            asked.below_insert_cons_of_ne kind rest hnext]
          exact ⟨h.through_of_child? hsome, h.child? hsome⟩

/-! ## Comparing nodes -/

/-- A concrete key leads to the same segment below two nodes if paths go through the same segments,
or it leads nowhere from both. -/
theorem matchChild_cases {left right : Node} (hleft : left.Means asked) (hright : right.Means other)
    (hthrough : ∀ segment, asked.Through [segment] ↔ other.Through [segment]) (name : String) :
    left.matchChild name = none ∧ right.matchChild name = none ∨
      ∃ segment child found, left.matchChild name = some child ∧
        right.matchChild name = some found ∧ child.Means (asked.below segment) ∧
        found.Means (other.below segment) := by
  have hsame : ∀ segment, (left.child? segment).isSome = (right.child? segment).isSome := by
    intro segment
    rw [Bool.eq_iff_iff, hleft.isSome_child?, hright.isSome_child?]
    exact hthrough segment
  have hchild : ∀ segment child, left.child? segment = some child →
      ∃ found, right.child? segment = some found ∧ child.Means (asked.below segment) ∧
        found.Means (other.below segment) := by
    intro segment child hfound
    have hsome := hsame segment
    rw [hfound] at hsome
    obtain ⟨found, hright'⟩ := Option.isSome_iff_exists.mp hsome.symm
    exact ⟨found, hright', hleft.child? hfound, hright.child? hright'⟩
  have hnone : ∀ segment, left.child? segment = none → right.child? segment = none := by
    intro segment hfound
    have hsome := hsame segment
    rw [hfound] at hsome
    exact Option.isNone_iff_eq_none.mp (Option.isSome_eq_false_iff.mp hsome.symm)
  unfold matchChild
  cases hkey : left.child? (.key name) with
  | some child =>
      obtain ⟨found, hfound, hmeans⟩ := hchild _ child hkey
      rw [hfound]
      exact .inr ⟨_, child, found, rfl, rfl, hmeans⟩
  | none =>
      rw [hnone _ hkey]
      cases hwildcard : left.child? .wildcard with
      | some child =>
          obtain ⟨found, hfound, hmeans⟩ := hchild _ child hwildcard
          exact .inr ⟨_, child, found, rfl, hfound, hmeans⟩
      | none => exact .inl ⟨rfl, hnone _ hwildcard⟩

end Means

/-- Two nodes are selected by the same directives, and the same directives select something below
them. -/
def SelectsAs (left right : Node) : Prop :=
  ∀ kind, left.isSelected kind = right.isSelected kind ∧
    left.hasInSubtree kind = right.hasInSubtree kind

namespace Means

variable {asked other : Asked}

/-- Two nodes that stand for the same paths are selected by the same directives. -/
theorem selectsAs {left right : Node} (hleft : left.Means asked) (hright : right.Means asked) :
    left.SelectsAs right := by
  intro kind
  constructor
  · rw [Bool.eq_iff_iff, hleft.isSelected [] left rfl, hright.isSelected [] right rfl]
  · rw [Bool.eq_iff_iff, hleft.hasInSubtree [] left rfl, hright.hasInSubtree [] right rfl]

/-- The first key leads to nodes that stand for the same paths, or nowhere from both. -/
theorem follow?_cons_rel {left right : Node} {rest : List String} (hleft : left.Means asked)
    (hright : right.Means other) (hbelow : ∀ segment, asked.below segment = other.below segment)
    (hrest : ∀ (next : Asked) (left right : Node), left.Means next → right.Means next →
      Option.Rel SelectsAs (left.follow? rest) (right.follow? rest)) (name : String) :
    Option.Rel SelectsAs (left.follow? (name :: rest)) (right.follow? (name :: rest)) := by
  rw [follow?_cons, follow?_cons]
  rcases hleft.matchChild_cases hright (fun segment => Asked.through_congr (hbelow segment)) name with
    ⟨hnone, hnone'⟩ | ⟨segment, child, found, hchild, hfound, hmeans, hmeans'⟩
  · rw [hnone, hnone']
    exact .none
  · rw [hchild, hfound]
    rw [← hbelow segment] at hmeans'
    exact hrest _ child found hmeans hmeans'

/-- From two nodes that stand for the same paths, concrete keys lead to nodes that are selected by
the same directives. -/
theorem follow?_rel (names : List String) (asked : Asked) (left right : Node)
    (hleft : left.Means asked) (hright : right.Means asked) :
    Option.Rel SelectsAs (left.follow? names) (right.follow? names) := by
  induction names generalizing left right asked with
  | nil => exact .some (hleft.selectsAs hright)
  | cons name rest ih => exact hleft.follow?_cons_rel hright (fun _ => rfl) ih name

end Means

end Node

/-! ## Trees -/

namespace SelectorTree

/-- Inserts pointers one after the other, each for its directive. -/
def ofInserts (inserts : List (String × Kind)) : SelectorTree :=
  inserts.foldl (fun tree entry => tree.insert entry.1 entry.2) empty

/-- The paths that some insertions ask for. -/
def asked (inserts : List (String × Kind)) : Node.Asked :=
  fun path kind => ∃ pointer, (pointer, kind) ∈ inserts ∧ Segment.ofPointer pointer = path

/-- The insertions for the pointers of the two directives, one after the other. -/
def insertsOf (preload fields : List String) : List (String × Kind) :=
  preload.map (·, .preload) ++ fields.map (·, .fields)

/-- The pointers of the two directives are inserted one after the other. -/
theorem build_eq_ofInserts (preload fields : List String) :
    build preload fields = ofInserts (insertsOf preload fields) := by
  unfold build ofInserts insertsOf
  rw [List.foldl_append, List.foldl_map, List.foldl_map]

/-- Each pointer is inserted for its directive. -/
theorem mem_insertsOf {preload fields : List String} {pointer : String} {kind : Kind} :
    (pointer, kind) ∈ insertsOf preload fields ↔
      kind = .preload ∧ pointer ∈ preload ∨ kind = .fields ∧ pointer ∈ fields := by
  unfold insertsOf
  rw [List.mem_append, List.mem_map, List.mem_map]
  cases kind with
  | preload => simp
  | fields => simp

theorem ofInserts_concat (inserts : List (String × Kind)) (pointer : String) (kind : Kind) :
    ofInserts (inserts ++ [(pointer, kind)]) = (ofInserts inserts).insert pointer kind := by
  unfold ofInserts
  rw [List.foldl_concat]

/-- One more insertion asks for the path of its pointer. -/
theorem asked_concat (inserts : List (String × Kind)) (pointer : String) (kind : Kind) :
    asked (inserts ++ [(pointer, kind)]) =
      (asked inserts).insert kind (Segment.ofPointer pointer) := by
  apply Node.Asked.ext
  intro path other
  constructor
  · rintro ⟨old, hmem, hpath⟩
    rcases List.mem_append.mp hmem with hold | hnew
    · exact .inl ⟨old, hold, hpath⟩
    · obtain ⟨rfl, rfl⟩ := Prod.mk.inj (List.mem_singleton.mp hnew)
      exact .inr ⟨hpath.symm, rfl⟩
  · rintro (⟨old, hmem, hpath⟩ | ⟨rfl, rfl⟩)
    · exact ⟨old, List.mem_append_left _ hmem, hpath⟩
    · exact ⟨pointer, List.mem_append_right _ (List.mem_singleton_self _), rfl⟩

/-- The nodes of every tree that is made by insertions are sorted. -/
theorem sorted_ofInserts (inserts : List (String × Kind)) : (ofInserts inserts).root.Sorted := by
  induction inserts using List.reverseRecOn with
  | nil => exact .empty ""
  | append_singleton inserts entry ih =>
      rw [ofInserts_concat]
      exact ih.insert _ _

/-- A tree stands for the paths of the pointers that were inserted. -/
theorem means_ofInserts (inserts : List (String × Kind)) :
    (ofInserts inserts).root.Means (asked inserts) := by
  induction inserts using List.reverseRecOn with
  | nil =>
      have hnothing : asked [] = .nothing := by
        apply Node.Asked.eq_nothing
        rintro path kind ⟨pointer, hmem, -⟩
        cases hmem
      rw [hnothing]
      exact Node.Means.empty ""
  | append_singleton inserts entry ih =>
      obtain ⟨pointer, kind⟩ := entry
      rw [ofInserts_concat, asked_concat]
      exact ih.insert (sorted_ofInserts inserts) kind (Segment.ofPointer pointer)

/-- A tree that is built stands for the paths of the pointers of both directives. -/
theorem means_build (preload fields : List String) :
    (build preload fields).root.Means (asked (insertsOf preload fields)) := by
  rw [build_eq_ofInserts]
  exact means_ofInserts _

end SelectorTree

end Hypermedia
