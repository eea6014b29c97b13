import Hypermedia.Proofs.Pruning.Alike

/-!
# Asking for more

More pointers for `preload` may keep less of a document. A key that a pointer names is not matched by
the wildcard any more, so a new pointer may lead away from what another pointer selects below the
wildcard.

* `SelectorTree.Keeps` are the paths of a document that are kept, and `SelectorTree.keeps_iff_at?` says
  what that means for what is left of the document.
* `Node.Overtaken` is a path that a new key leads away from, and `Node.keepsPath_iff_not_overtaken` says
  that no other path is lost, by induction on the path.
* `SelectorTree.keeps_widened` puts them together for whole documents, and
  `SelectorTree.not_forall_keeps_widened` is a path that is lost.
-/

namespace Hypermedia

/-! ## What is asked for -/

namespace Node.Asked

/-- The same paths are asked for `fields`, and on the other side at least the same ones for
`preload`. -/
structure Widened (asked other : Asked) : Prop where
  /-- The paths for `fields`. -/
  fields : ∀ path, asked path .fields ↔ other path .fields
  /-- The paths for `preload`. -/
  preload : ∀ path, asked path .preload → other path .preload

namespace Widened

variable {asked other : Asked}

/-- The same holds below a segment. -/
theorem below (h : asked.Widened other) (segment : Segment) :
    (asked.below segment).Widened (other.below segment) :=
  ⟨fun path => h.fields (segment :: path), fun path => h.preload (segment :: path)⟩

theorem asked_of_asked (h : asked.Widened other) {path : List Segment} {kind : Kind}
    (hasked : asked path kind) : other path kind := by
  cases kind with
  | preload => exact h.preload path hasked
  | fields => exact (h.fields path).mp hasked

/-- Where there is a child, there is one on the other side. -/
theorem exists_child? (h : asked.Widened other) {node node' child : Node} (hmeans : node.Means asked)
    (hmeans' : node'.Means other) {segment : Segment} (hchild : node.child? segment = some child) :
    ∃ found, node'.child? segment = some found := by
  obtain ⟨kind, rest, hasked⟩ := hmeans.through_of_child? hchild
  exact Option.isSome_iff_exists.mp
    ((hmeans'.isSome_child? segment).mpr ⟨kind, rest, h.asked_of_asked hasked⟩)

/-- The same nodes are selected by `fields`. -/
theorem isSelected_fields (h : asked.Widened other) {node node' : Node} (hmeans : node.Means asked)
    (hmeans' : node'.Means other) : node.isSelected .fields = node'.isSelected .fields := by
  rw [Bool.eq_iff_iff, hmeans.isSelected [] node rfl, hmeans'.isSelected [] node' rfl]
  exact h.fields []

/-- Below a child that is only on the other side, nothing is asked for `fields`. -/
theorem not_fields (h : asked.Widened other) {node : Node} (hmeans : node.Means asked)
    {segment : Segment} (hchild : node.child? segment = none) (path : List Segment) :
    ¬(other.below segment) path .fields := fun hfields =>
  hmeans.not_through_of_child? hchild ⟨.fields, path, (h.fields (segment :: path)).mpr hfields⟩

end Widened

end Node.Asked

/-! ## Paths of two trees -/

namespace Node

variable {node other child found : Node} {name : String} {rest : List String}

/-- A key leads to the child of that name. -/
theorem matchChild_of_key (h : node.child? (.key name) = some child) :
    node.matchChild name = some child := by
  unfold matchChild
  rw [h]

/-- Without a child of that name, a key leads to the child of the wildcard. -/
theorem matchChild_of_wildcard (h : node.child? (.key name) = none) :
    node.matchChild name = node.child? .wildcard := by
  unfold matchChild
  rw [h]

/-- Below a node for which no `fields` are asked, a path is kept only if it leads to a node. -/
theorem keepsPath_of_not_fields {asked : Asked} (h : node.Means asked)
    (hnone : ∀ path, ¬asked path .fields) (names : List String) :
    node.keepsPath names = (node.follow? names).isSome := by
  induction names generalizing node asked with
  | nil => rfl
  | cons name rest ih =>
      have hself : node.isSelected .fields = false := by
        rw [← Bool.not_eq_true, h.isSelected [] node rfl]
        exact hnone []
      rw [keepsPath_cons hself, follow?_cons]
      cases hchild : node.matchChild name with
      | none => rfl
      | some child =>
          obtain ⟨segment, hsegment⟩ := child?_of_matchChild hchild
          rw [Option.any_some, Option.bind_some]
          exact ih (h.child? hsegment) fun path => hnone (segment :: path)

/-- Following the same keys below two nodes, of which the other one has more children, comes to where
the other one has a child for a key that was matched by the wildcard, and the rest of the keys leads
nowhere below this child. The nodes on the way are not selected by `fields`. -/
inductive Overtaken : Node → Node → List String → Prop where
  /-- Only the other node has a child of the name, and the other keys lead nowhere below it. -/
  | here {node other found : Node} {name : String} {rest : List String}
      (hself : node.isSelected .fields = false) (hchild : node.child? (.key name) = none)
      (hfound : other.child? (.key name) = some found) (hlost : found.follow? rest = none) :
      Overtaken node other (name :: rest)
  /-- Both nodes have a child of the name. -/
  | key {node other child found : Node} {name : String} {rest : List String}
      (hself : node.isSelected .fields = false) (hchild : node.child? (.key name) = some child)
      (hfound : other.child? (.key name) = some found) (hrest : Overtaken child found rest) :
      Overtaken node other (name :: rest)
  /-- Both nodes have a child of the wildcard, and none of the name. -/
  | wildcard {node other child found : Node} {name : String} {rest : List String}
      (hself : node.isSelected .fields = false) (hnone : node.child? (.key name) = none)
      (hnone' : other.child? (.key name) = none) (hchild : node.child? .wildcard = some child)
      (hfound : other.child? .wildcard = some found) (hrest : Overtaken child found rest) :
      Overtaken node other (name :: rest)

namespace Overtaken

/-- Nothing is overtaken below a node that is selected by `fields`. -/
theorem isSelected_fields {names : List String} (h : node.Overtaken other names) :
    node.isSelected .fields = false := by
  cases h <;> assumption

theorem here_iff (hself : node.isSelected .fields = false) (hchild : node.child? (.key name) = none)
    (hfound : other.child? (.key name) = some found) :
    node.Overtaken other (name :: rest) ↔ found.follow? rest = none := by
  refine ⟨fun h => ?_, .here hself hchild hfound⟩
  cases h with
  | here _ _ hfound' hlost => exact Option.some.inj (hfound.symm.trans hfound') ▸ hlost
  | key _ hchild' => cases hchild.symm.trans hchild'
  | wildcard _ _ hnone' => cases hfound.symm.trans hnone'

theorem key_iff (hself : node.isSelected .fields = false)
    (hchild : node.child? (.key name) = some child)
    (hfound : other.child? (.key name) = some found) :
    node.Overtaken other (name :: rest) ↔ child.Overtaken found rest := by
  refine ⟨fun h => ?_, .key hself hchild hfound⟩
  cases h with
  | here _ hchild' => cases hchild.symm.trans hchild'
  | key _ hchild' hfound' hrest =>
      obtain rfl := Option.some.inj (hchild.symm.trans hchild')
      obtain rfl := Option.some.inj (hfound.symm.trans hfound')
      exact hrest
  | wildcard _ hnone => cases hchild.symm.trans hnone

theorem wildcard_iff (hself : node.isSelected .fields = false)
    (hnone : node.child? (.key name) = none) (hnone' : other.child? (.key name) = none)
    (hchild : node.child? .wildcard = some child)
    (hfound : other.child? .wildcard = some found) :
    node.Overtaken other (name :: rest) ↔ child.Overtaken found rest := by
  refine ⟨fun h => ?_, .wildcard hself hnone hnone' hchild hfound⟩
  cases h with
  | here _ _ hfound' => cases hnone'.symm.trans hfound'
  | key _ hchild' => cases hnone.symm.trans hchild'
  | wildcard _ _ _ hchild' hfound' hrest =>
      obtain rfl := Option.some.inj (hchild.symm.trans hchild')
      obtain rfl := Option.some.inj (hfound.symm.trans hfound')
      exact hrest

end Overtaken

/-- If more is asked for `preload`, a path that was kept still is, unless it is overtaken. -/
theorem keepsPath_iff_not_overtaken {asked asked' : Asked} (hmeans : node.Means asked)
    (hmeans' : other.Means asked') (hmore : asked.Widened asked') {names : List String}
    (hkept : node.keepsPath names = true) :
    other.keepsPath names = true ↔ ¬node.Overtaken other names := by
  -- Down to the first node that is selected by `fields`, both nodes follow the same segment, or the
  -- other one follows a key of its own; the induction ends there.
  induction names generalizing node other asked asked' with
  | nil => exact iff_of_true rfl nofun
  | cons name rest ih =>
      have hsame := hmore.isSelected_fields hmeans hmeans'
      cases hself : node.isSelected .fields with
      | true =>
          refine iff_of_true (keepsPath_of_isSelected (hsame.symm.trans hself) _) fun hovertaken => ?_
          cases hself.symm.trans hovertaken.isSelected_fields
      | false =>
          rw [keepsPath_cons hself] at hkept
          rw [keepsPath_cons (hsame.symm.trans hself)]
          cases hchild : node.child? (.key name) with
          | some child =>
              obtain ⟨found, hfound⟩ := hmore.exists_child? hmeans hmeans' hchild
              rw [matchChild_of_key hchild, Option.any_some] at hkept
              rw [matchChild_of_key hfound, Option.any_some, Overtaken.key_iff hself hchild hfound]
              exact ih (hmeans.child? hchild) (hmeans'.child? hfound) (hmore.below _) hkept
          | none =>
              cases hfound : other.child? (.key name) with
              | some found =>
                  rw [matchChild_of_key hfound, Option.any_some,
                    keepsPath_of_not_fields (hmeans'.child? hfound) (hmore.not_fields hmeans hchild),
                    Overtaken.here_iff hself hchild hfound, Option.isSome_iff_ne_none]
              | none =>
                  rw [matchChild_of_wildcard hchild] at hkept
                  rw [matchChild_of_wildcard hfound]
                  cases hnext : node.child? .wildcard with
                  | none =>
                      rw [hnext] at hkept
                      cases hkept
                  | some next =>
                      obtain ⟨further, hfurther⟩ := hmore.exists_child? hmeans hmeans' hnext
                      rw [hnext, Option.any_some] at hkept
                      rw [hfurther, Option.any_some,
                        Overtaken.wildcard_iff hself hchild hfound hnext hfurther]
                      exact ih (hmeans.child? hnext) (hmeans'.child? hfurther) (hmore.below _) hkept

end Node

/-! ## What is left of a document -/

/-- A value without parts. -/
def Json.isScalar : Json → Bool
  | .array _ | .object _ => false
  | _ => true

namespace Pruning

variable {tree : SelectorTree} {place : Place}

/-- A value without parts is left as it is, and nothing else becomes one. -/
theorem kept_eq_iff_of_isScalar {value left : Json} (h : left.isScalar = true) :
    kept tree place value = left ↔ value = left := by
  cases value with
  | array _ | object _ =>
      rw [kept]
      refine iff_of_false ?_ ?_ <;> rintro rfl <;> cases h
  | _ => rw [kept]

/-- Where a part is pruned, at most a gap is left. -/
theorem eq_null_of_kept_part? {document left : Json} {step : Json.Step}
    (h : place.member? tree step.name = none)
    (hleft : (kept tree place document).part? step = some left) : left = .null := by
  cases document with
  | array elements =>
      cases step with
      | member name => cases hleft
      | element index =>
          have hplace : place.member? tree (toString index) = none := h
          have hslot := getElem?_keptElements tree place 0 elements index
          rw [Nat.zero_add, hplace] at hslot
          obtain ⟨hlt, -⟩ := List.getElem?_eq_some_iff.mp hleft
          have hlength := (trim_prefix_map_getD (keptElements tree place 0 elements)).length_le
          rw [List.length_map] at hlength
          have hgap : (keptElements tree place 0 elements)[index]? = some none := by
            rw [List.getElem?_eq_getElem (Nat.lt_of_lt_of_le hlt hlength)] at hslot ⊢
            obtain ⟨element, -, hnone⟩ := Option.map_eq_some_iff.mp hslot.symm
            rw [← hnone, Option.map_none]
          exact Option.some.inj (hleft.symm.trans (getElem?_trim_of_none hlt hgap))
  | object members =>
      cases step with
      | element index => cases hleft
      | member name =>
          have hplace : place.member? tree name = none := h
          have hlookup := lookup_keptMembers tree place members name
          simp only [hplace, Option.map_none, Option.bind_fun_none] at hlookup
          cases hleft.symm.trans hlookup
  | _ => cases step <;> cases hleft

/-- Where a path is pruned, at most a gap is left. -/
theorem eq_null_of_kept_at? {document value left : Json} {path : List Json.Step}
    (hvalue : document.at? path = some value)
    (h : place.descend? tree (path.map Json.Step.name) = none)
    (hleft : (kept tree place document).at? path = some left) : left = .null := by
  induction path generalizing document place with
  | nil => cases h
  | cons step rest ih =>
      rw [Json.at?_cons] at hvalue hleft
      rw [List.map_cons, Place.descend?_cons] at h
      obtain ⟨part, hpart, hvalue⟩ := Option.bind_eq_some_iff.mp hvalue
      cases hinner : place.member? tree step.name with
      | some inner =>
          rw [kept_part? hpart hinner] at hleft
          rw [hinner] at h
          exact ih hvalue h hleft
      | none =>
          obtain ⟨gap, hgap, hleft⟩ := Option.bind_eq_some_iff.mp hleft
          obtain rfl := eq_null_of_kept_part? hinner hgap
          -- There is nothing below a gap.
          cases rest with
          | nil => exact (Option.some.inj hleft).symm
          | cons next more => cases next <;> cases hleft

end Pruning

/-! ## Whole documents -/

namespace SelectorTree

variable {tree : SelectorTree} {document value : Json} {path : List Json.Step}

/-- A path of a document is kept: nothing on the way is pruned. -/
def Keeps (tree : SelectorTree) (document : Json) (path : List Json.Step) : Prop :=
  (document.at? path).isSome = true ∧
    ((Pruning.start tree).descend? tree (path.map Json.Step.name)).isSome = true

instance : Decidable (tree.Keeps document path) :=
  inferInstanceAs (Decidable (_ ∧ _))

/-- A value that is not `null` is kept exactly if something is left at its path that is not `null`
either. -/
theorem keeps_iff_at? (hvalue : document.at? path = some value) (hne : value ≠ .null) :
    tree.Keeps document path ↔ ∃ left, (tree.prune document).at? path = some left ∧ left ≠ .null := by
  rw [prune_eq_kept]
  constructor
  · rintro ⟨-, hsome⟩
    obtain ⟨inner, hinner⟩ := Option.isSome_iff_exists.mp hsome
    refine ⟨_, Pruning.kept_at? hvalue hinner, fun hnull => hne ?_⟩
    exact (Pruning.kept_eq_iff_of_isScalar rfl).mp hnull
  · rintro ⟨left, hleft, hnull⟩
    refine ⟨Option.isSome_of_mem hvalue, ?_⟩
    rw [Option.isSome_iff_ne_none]
    exact fun hnone => hnull (Pruning.eq_null_of_kept_at? hvalue hnone hleft)

/-- With a `fields` pointer, the paths that are kept are those that the tree keeps. -/
theorem keeps_build_iff {preload fields : List String} (hfields : fields ≠ []) :
    (build preload fields).Keeps document path ↔ (document.at? path).isSome = true ∧
      (build preload fields).root.keepsPath (path.map Json.Step.name) = true := by
  refine and_congr_right fun _ => ?_
  have hactive : (build preload fields).fieldsActive = true := by
    rw [fieldsActive_build]
    simpa using hfields
  unfold Pruning.start
  rw [hactive, Bool.true_and]
  cases hroot : (build preload fields).root.isSelected .fields with
  | true =>
      rw [Node.keepsPath_of_isSelected hroot]
      exact iff_of_true (Pruning.Place.isSome_descend?_of_not_prune rfl _) rfl
  | false => rw [Bool.not_false, Pruning.Place.isSome_descend? (means_build _ _) hroot]

/-- The value at a path that is kept is a scalar exactly if what is left there is, and then they are
the same. -/
theorem at?_prune_eq_iff_of_isScalar (h : tree.Keeps document path) {scalar : Json}
    (hscalar : scalar.isScalar = true) :
    (tree.prune document).at? path = some scalar ↔ document.at? path = some scalar := by
  obtain ⟨value, hvalue⟩ := Option.isSome_iff_exists.mp h.1
  obtain ⟨inner, hinner⟩ := Option.isSome_iff_exists.mp h.2
  rw [prune_eq_kept, Pruning.kept_at? hvalue hinner, hvalue, Option.some_inj, Option.some_inj]
  exact Pruning.kept_eq_iff_of_isScalar hscalar

/-- More pointers for `preload` ask for more. -/
theorem widened_insertsOf {preload preload' fields : List String}
    (h : ∀ pointer ∈ preload, pointer ∈ preload') :
    (asked (insertsOf preload fields)).Widened (asked (insertsOf preload' fields)) := by
  refine ⟨fun path => ?_, fun path hasked => ?_⟩
  · rw [asked_insertsOf, asked_insertsOf]
    simp
  · obtain ⟨pointer, ⟨-, hin⟩ | ⟨hkind, -⟩, hpath⟩ := asked_insertsOf.mp hasked
    · exact asked_insertsOf.mpr ⟨pointer, .inl ⟨rfl, h pointer hin⟩, hpath⟩
    · cases hkind

/-- **Asking for more.** Let there be `fields` pointers, and more pointers for `preload`. A path of a
document that was kept still is, unless it is overtaken: a key on it that was matched by the wildcard is
now a key that a `preload` pointer names, and no pointer below that key leads on along the path. A scalar
that was left at a path which is kept by both trees is left there as it was. For any tree, a value that is
not `null` is kept exactly if something is left at its path that is no gap. -/
theorem keeps_widened {preload preload' fields : List String} (hfields : fields ≠ [])
    (hmore : ∀ pointer ∈ preload, pointer ∈ preload')
    (hkept : (build preload fields).Keeps document path) :
    ((build preload' fields).Keeps document path ↔
      ¬(build preload fields).root.Overtaken (build preload' fields).root
        (path.map Json.Step.name)) ∧
    ((build preload' fields).Keeps document path → ∀ scalar : Json, scalar.isScalar = true →
      ((build preload fields).prune document).at? path = some scalar →
      ((build preload' fields).prune document).at? path = some scalar) ∧
    ∀ (tree : SelectorTree) (value : Json), document.at? path = some value → value ≠ .null →
      (tree.Keeps document path ↔
        ∃ left, (tree.prune document).at? path = some left ∧ left ≠ .null) := by
  refine ⟨?_, ?_, fun tree value hvalue hne => keeps_iff_at? hvalue hne⟩
  · rw [keeps_build_iff hfields] at hkept ⊢
    rw [and_iff_right hkept.1]
    exact Node.keepsPath_iff_not_overtaken (means_build preload fields) (means_build preload' fields)
      (widened_insertsOf hmore) hkept.2
  · intro hkept' scalar hscalar hleft
    exact (at?_prune_eq_iff_of_isScalar hkept' hscalar).mpr
      ((at?_prune_eq_iff_of_isScalar hkept hscalar).mp hleft)

/-- A pointer for another member of `a` does not take away what is selected in `a` by a key. -/
theorem keeps_widened_of_key :
    (build [] ["/a/b"]).Keeps (.object [("a", .object [("b", .bool true), ("c", .bool false)])])
      [.member "a", .member "b"] ∧
    (build ["/a/c"] ["/a/b"]).Keeps
      (.object [("a", .object [("b", .bool true), ("c", .bool false)])])
      [.member "a", .member "b"] ∧
    ¬(build [] ["/a/b"]).root.Overtaken (build ["/a/c"] ["/a/b"]).root ["a", "b"] := by
  have hkept : (build [] ["/a/b"]).Keeps
      (.object [("a", .object [("b", .bool true), ("c", .bool false)])])
      [.member "a", .member "b"] := by decide +kernel
  have hkept' : (build ["/a/c"] ["/a/b"]).Keeps
      (.object [("a", .object [("b", .bool true), ("c", .bool false)])])
      [.member "a", .member "b"] := by decide +kernel
  exact ⟨hkept, hkept',
    (keeps_widened (List.cons_ne_nil _ _) (List.forall_mem_nil _) hkept).1.mp hkept'⟩

/-- A path may be lost: with the pointer `/a/c`, the key `a` is not matched by the wildcard of `/*/b`
any more. -/
theorem not_forall_keeps_widened :
    ¬∀ (preload preload' fields : List String) (document : Json) (path : List Json.Step),
      fields ≠ [] → (∀ pointer ∈ preload, pointer ∈ preload') →
      (build preload fields).Keeps document path → (build preload' fields).Keeps document path := by
  intro hwidened
  have hkept := hwidened [] ["/a/c"] ["/*/b"]
    (.object [("a", .object [("b", .bool true), ("c", .bool false)])]) [.member "a", .member "b"]
    (List.cons_ne_nil _ _) (List.forall_mem_nil _) (by decide +kernel)
  exact absurd hkept (by decide +kernel)

end SelectorTree

end Hypermedia
