import Hypermedia.Proofs.Pruning.Paths
import Hypermedia.Proofs.Selector.Inserts

/-!
# Trees that prune alike

Pointers for `preload` keep parts of a document that pointers for `fields` would not keep, so two
trees with the same pointers for `fields` may prune a document in different ways. They do not if their
pointers for `preload` are among those for `fields`.

* `Asked.Alike` says so of what is asked for, and `Place.Alike` of the places where two walks stand.
* `SelectorTree.prune_build_congr` compares the trees.
* `SelectorTree.fieldsActive_build` says which trees prune at all.
-/

namespace Hypermedia

/-! ## What is asked for -/

namespace Node.Asked

/-- The same paths are asked for `fields`, and every path that is asked for `preload` is one of
them. -/
structure Alike (asked other : Asked) : Prop where
  /-- The paths for `fields`. -/
  fields : ∀ path, asked path .fields ↔ other path .fields
  /-- The paths for `preload` on one side. -/
  preload : ∀ path, asked path .preload → asked path .fields
  /-- The paths for `preload` on the other side. -/
  other_preload : ∀ path, other path .preload → other path .fields

namespace Alike

variable {asked other : Asked}

theorem symm (h : asked.Alike other) : other.Alike asked :=
  ⟨fun path => (h.fields path).symm, h.other_preload, h.preload⟩

/-- The same holds below a segment. -/
theorem below (h : asked.Alike other) (segment : Segment) :
    (asked.below segment).Alike (other.below segment) :=
  ⟨fun path => h.fields (segment :: path), fun path => h.preload (segment :: path),
    fun path => h.other_preload (segment :: path)⟩

/-- What is asked for at all is asked for `fields`. -/
theorem fields_of_asked (h : asked.Alike other) {path : List Segment} {kind : Kind}
    (hasked : asked path kind) : asked path .fields := by
  cases kind with
  | preload => exact h.preload path hasked
  | fields => exact hasked

theorem through_of_through (h : asked.Alike other) {path : List Segment}
    (hthrough : asked.Through path) : other.Through path := by
  obtain ⟨kind, rest, hasked⟩ := hthrough
  exact ⟨.fields, rest, (h.fields _).mp (h.fields_of_asked hasked)⟩

/-- A node for which something is asked is one for which `fields` are asked. -/
theorem hasInSubtree_fields (h : asked.Alike other) {node : Node} (hmeans : node.Means asked)
    {kind : Kind} (hknown : node.hasInSubtree kind = true) : node.hasInSubtree .fields = true := by
  obtain ⟨rest, hasked⟩ := (hmeans.hasInSubtree [] node rfl kind).mp hknown
  exact (hmeans.hasInSubtree [] node rfl .fields).mpr ⟨rest, h.fields_of_asked hasked⟩

/-- Paths go through the same places. -/
theorem through_iff (h : asked.Alike other) (path : List Segment) :
    asked.Through path ↔ other.Through path :=
  ⟨h.through_of_through, h.symm.through_of_through⟩

end Alike

end Node.Asked

/-! ## Walking two trees -/

namespace Pruning

/-- Two walks stand at places from where they prune alike. -/
inductive Place.Alike : Place → Place → Prop where
  /-- Pruning is off. -/
  | whole (node node' : Option Node) : Place.Alike ⟨node, false⟩ ⟨node', false⟩
  /-- Pruning is on, and the nodes stand for paths that are alike. -/
  | pruned {node node' : Node} {asked asked' : Node.Asked} (hmeans : node.Means asked)
      (hmeans' : node'.Means asked') (halike : asked.Alike asked') :
      Place.Alike ⟨some node, true⟩ ⟨some node', true⟩

/-- Below nodes that stand for paths that are alike, pruning stays on or goes off on both sides. -/
theorem Place.Alike.child {node node' : Node} {asked asked' : Node.Asked}
    (hmeans : node.Means asked) (hmeans' : node'.Means asked') (halike : asked.Alike asked') :
    Place.Alike ⟨some node, !node.isSelected .fields⟩ ⟨some node', !node'.isSelected .fields⟩ := by
  have hsame : node.isSelected .fields = node'.isSelected .fields := by
    rw [Bool.eq_iff_iff, hmeans.isSelected [] node rfl, hmeans'.isSelected [] node' rfl]
    exact halike.fields []
  rw [hsame]
  cases node'.isSelected .fields with
  | true => exact .whole _ _
  | false => exact .pruned hmeans hmeans' halike

/-- Where something is asked for `fields`, the part is kept and the walk goes on below it. -/
theorem Place.member?_of_fields (tree : SelectorTree) {node child : Node} {name : String}
    (hchild : node.matchChild name = some child) (hfields : child.hasInSubtree .fields = true) :
    Place.member? tree ⟨some node, true⟩ name = some ⟨child, !child.isSelected .fields⟩ := by
  unfold Place.member?
  simp [hchild, SelectorTree.keepsForFields, hfields]

/-- A name leads to places that are alike, or both walks prune what it names. -/
theorem Place.Alike.member? {place place' : Place} (h : place.Alike place')
    (tree tree' : SelectorTree) (name : String) :
    Option.Rel Place.Alike (place.member? tree name) (place'.member? tree' name) := by
  cases h with
  | whole node node' => exact .some (.whole _ _)
  | @pruned node node' asked asked' hmeans hmeans' halike =>
      rcases hmeans.matchChild_cases hmeans' (fun segment => halike.through_iff [segment]) name with
        ⟨hnone, hnone'⟩ | ⟨segment, child, found, hchild, hfound, hbelow, hbelow'⟩
      · unfold Place.member?
        simp only [Option.bind_some, hnone, hnone', if_true]
        exact .none
      · have halike' := halike.below segment
        obtain ⟨-, -, kind, hknown⟩ := hmeans.of_matchChild hchild
        obtain ⟨-, -, kind', hknown'⟩ := hmeans'.of_matchChild hfound
        rw [member?_of_fields tree hchild (halike'.hasInSubtree_fields hbelow hknown),
          member?_of_fields tree' hfound (halike'.symm.hasInSubtree_fields hbelow' hknown')]
        exact .some (.child hbelow hbelow' halike')

mutual

/-- From places that are alike, the same is left of a document. -/
theorem kept_congr {tree tree' : SelectorTree} : (document : Json) → ∀ {place place' : Place},
    place.Alike place' → kept tree place document = kept tree' place' document
  | .null, _, _, _ => rfl
  | .bool _, _, _, _ => rfl
  | .number _, _, _, _ => rfl
  | .string _, _, _, _ => rfl
  | .array elements, _, _, h => congrArg (fun left => Json.array (trim left))
      (keptElements_congr 0 elements h)
  | .object members, _, _, h => congrArg Json.object (keptMembers_congr members h)

/-- The same of elements. -/
theorem keptElements_congr {tree tree' : SelectorTree} (index : Nat) : (elements : List Json) →
    ∀ {place place' : Place}, place.Alike place' →
      keptElements tree place index elements = keptElements tree' place' index elements
  | [], _, _, _ => rfl
  | element :: rest, place, place', h => by
      rw [keptElements, keptElements, keptElements_congr (index + 1) rest h]
      have hmember := h.member? tree tree' (toString index)
      generalize place.member? tree (toString index) = inner at hmember ⊢
      generalize place'.member? tree' (toString index) = inner' at hmember ⊢
      cases hmember with
      | none => rfl
      | some hinner => rw [Option.map_some, Option.map_some, kept_congr element hinner]

/-- The same of members. -/
theorem keptMembers_congr {tree tree' : SelectorTree} : (members : List (String × Json)) →
    ∀ {place place' : Place}, place.Alike place' →
      keptMembers tree place members = keptMembers tree' place' members
  | [], _, _, _ => rfl
  | (name, member) :: rest, place, place', h => by
      rw [keptMembers, keptMembers, keptMembers_congr rest h]
      have hmember := h.member? tree tree' name
      generalize place.member? tree name = inner at hmember ⊢
      generalize place'.member? tree' name = inner' at hmember ⊢
      cases hmember with
      | none => rfl
      | some hinner =>
          dsimp only
          rw [kept_congr member hinner]

end

end Pruning

/-! ## Whole documents -/

namespace SelectorTree

/-- A tree prunes if some `fields` pointer was inserted. -/
theorem fieldsActive_build (preload fields : List String) :
    (build preload fields).fieldsActive = !fields.isEmpty := by
  rw [build_eq_ofInserts, fieldsActive_ofInserts, insertsOf, List.any_append, List.any_map,
    List.any_map]
  cases fields <;> simp

/-- The paths that a tree is built for. -/
theorem asked_insertsOf {preload fields : List String} {path : List Segment} {kind : Kind} :
    asked (insertsOf preload fields) path kind ↔
      ∃ pointer, (kind = .preload ∧ pointer ∈ preload ∨ kind = .fields ∧ pointer ∈ fields) ∧
        Segment.ofPointer pointer = path := by
  simp only [asked, mem_insertsOf]

/-- A tree without pointers does not prune. -/
theorem fieldsActive_of_isEmpty {preload fields : List String}
    (h : (build preload fields).isEmpty = true) : (build preload fields).fieldsActive = false := by
  rw [fieldsActive_build]
  cases fields with
  | nil => rfl
  | cons pointer rest =>
      have hmeans := means_build preload (pointer :: rest)
      have hknown : (build preload (pointer :: rest)).root.hasInSubtree .fields = true :=
        (hmeans.hasInSubtree [] _ rfl .fields).mpr ⟨Segment.ofPointer pointer,
          asked_insertsOf.mpr ⟨pointer, .inr ⟨rfl, List.mem_cons_self⟩, rfl⟩⟩
      unfold isEmpty Selection.isEmpty at h
      rw [Bool.and_eq_true, Bool.not_eq_true', Bool.not_eq_true'] at h
      exact absurd (hknown.symm.trans h.2) (by decide)

/-- Trees with the same pointers for `fields` ask for alike paths if all their pointers are among
them. -/
theorem alike_insertsOf {preload preload' fields : List String}
    (h : ∀ pointer ∈ preload, pointer ∈ fields) (h' : ∀ pointer ∈ preload', pointer ∈ fields) :
    (asked (insertsOf preload fields)).Alike (asked (insertsOf preload' fields)) := by
  have hamong : ∀ {pointers : List String}, (∀ pointer ∈ pointers, pointer ∈ fields) → ∀ path,
      asked (insertsOf pointers fields) path .preload →
        asked (insertsOf pointers fields) path .fields := by
    intro pointers hpointers path hasked
    obtain ⟨pointer, ⟨-, hin⟩ | ⟨hkind, -⟩, hpath⟩ := asked_insertsOf.mp hasked
    · exact asked_insertsOf.mpr ⟨pointer, .inr ⟨rfl, hpointers pointer hin⟩, hpath⟩
    · cases hkind
  refine ⟨fun path => ?_, hamong h, hamong h'⟩
  rw [asked_insertsOf, asked_insertsOf]
  simp

/-- Trees with the same pointers for `fields` prune alike if all their pointers are among them. -/
theorem prune_build_congr {preload preload' fields : List String}
    (h : ∀ pointer ∈ preload, pointer ∈ fields) (h' : ∀ pointer ∈ preload', pointer ∈ fields)
    (document : Json) :
    (build preload fields).prune document = (build preload' fields).prune document := by
  have hactive : (build preload fields).fieldsActive = (build preload' fields).fieldsActive := by
    rw [fieldsActive_build, fieldsActive_build]
  rw [prune_eq_kept, prune_eq_kept]
  refine Pruning.kept_congr document ?_
  unfold Pruning.start
  rw [hactive]
  cases (build preload' fields).fieldsActive with
  | false => exact .whole _ _
  | true =>
      rw [Bool.true_and, Bool.true_and]
      exact .child (means_build _ _) (means_build _ _) (alike_insertsOf h h')

end SelectorTree

end Hypermedia
