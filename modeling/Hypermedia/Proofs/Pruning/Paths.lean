import Mathlib.Data.List.Basic
import Hypermedia.Proofs.Pruning.Kept
import Hypermedia.Proofs.Selector.Meaning

/-!
# Where the parts of a pruned document are

Pruning does not move anything: what is kept is at the path where it was, and what is missing was
not asked for.

* `Json.Step` is a step into a document, a member or an element. `Json.at?` follows a path of
  steps.
* `Node.keepsPath` says which paths are kept, in terms of the tree alone.
* `Json.Pruned` compares a value with what is left of it, if only some of its parts are kept.
* `Pruning.kept_at?` is what a walk keeps along a path, by induction on the path;
  `Pruning.pruned_kept` is one value. `SelectorTree.prune_at?` puts them together for whole
  documents.
-/

namespace Hypermedia

/-! ## Paths in documents -/

/-- A step into a document. -/
inductive Json.Step where
  /-- The member of this name. -/
  | member (name : String)
  /-- The element at this index. -/
  | element (index : Nat)
  deriving DecidableEq, Repr

namespace Json

/-- The key that a selector has for the step: the name of a member, or a decimal index. -/
def Step.name : Step → String
  | member name => name
  | element index => toString index

/-- The part of a document that a step leads to. -/
def part? : Json → Step → Option Json
  | .object members, .member name => members.lookup name
  | .array elements, .element index => elements[index]?
  | _, _ => none

/-- The value at a path of a document. -/
def at? (document : Json) (path : List Step) : Option Json :=
  path.foldlM part? document

@[simp] theorem at?_nil (document : Json) : document.at? [] = some document := rfl

@[simp] theorem at?_cons (document : Json) (step : Step) (rest : List Step) :
    document.at? (step :: rest) = (document.part? step).bind (·.at? rest) := rfl

/-- A value and what is left of it if the parts for which `keeps` holds are kept. Of an object
these members are left, in their order. An array ends with the last kept element, and the others
before it are `null`. -/
inductive Pruned (keeps : Step → Bool) : Json → Json → Prop where
  /-- The null value. -/
  | null : Pruned keeps .null .null
  /-- A truth value. -/
  | bool (b : Bool) : Pruned keeps (.bool b) (.bool b)
  /-- A number. -/
  | number (n : Number) : Pruned keeps (.number n) (.number n)
  /-- A text. -/
  | string (s : String) : Pruned keeps (.string s) (.string s)
  /-- An array of which no element is kept. -/
  | emptied {elements : List Json}
      (hnone : ∀ index, index < elements.length → keeps (.element index) = false) :
      Pruned keeps (.array elements) (.array [])
  /-- An array with a last kept element. -/
  | array {elements left : List Json} {last : Nat} (hlast : last < elements.length)
      (hkept : keeps (.element last) = true)
      (hgreatest : ∀ index, index < elements.length → keeps (.element index) = true → index ≤ last)
      (hlength : left.length = last + 1)
      (hgap : ∀ index, index ≤ last → keeps (.element index) = false → left[index]? = some .null) :
      Pruned keeps (.array elements) (.array left)
  /-- An object. -/
  | object {members left : List (String × Json)}
      (hnames : left.map (·.1) = (members.map (·.1)).filter fun name => keeps (.member name)) :
      Pruned keeps (.object members) (.object left)

end Json

/-! ## Paths of a selector tree -/

namespace Node

variable {node child : Node} {name : String}

/-- Whether concrete keys lead to a node below a node, or reach one on the way that is selected by
`fields`. -/
def keepsPath (node : Node) (names : List String) : Bool :=
  (node.follow? names).isSome ||
    names.inits.any fun start => (node.follow? start).any (·.isSelected .fields)

/-- At a node that is selected by `fields`, and below it, every path is kept. -/
theorem keepsPath_of_isSelected (h : node.isSelected .fields = true) (names : List String) :
    node.keepsPath names = true := by
  unfold keepsPath
  rw [Bool.or_eq_true, List.any_eq_true]
  refine .inr ⟨[], ?_, h⟩
  cases names <;> exact List.mem_cons_self

/-- Below another node, a path is kept if its first key leads to a node below which its rest is
kept. -/
theorem keepsPath_cons (h : node.isSelected .fields = false) (name : String) (rest : List String) :
    node.keepsPath (name :: rest) = (node.matchChild name).any (·.keepsPath rest) := by
  have hself : (node.follow? []).any (·.isSelected .fields) = false := h
  unfold keepsPath
  rw [List.inits, List.any_cons, hself, Bool.false_or, List.any_map]
  simp only [Function.comp_def, follow?_cons]
  cases node.matchChild name with
  | none => simp
  | some child => rfl

end Node

/-! ## Places on a path -/

namespace Pruning

variable {tree : SelectorTree} {place inner : Place}

/-- The place that concrete keys lead to, unless one on the way is pruned. -/
def Place.descend? (tree : SelectorTree) (place : Place) (names : List String) : Option Place :=
  names.foldlM (fun place name => place.member? tree name) place

theorem Place.descend?_cons (tree : SelectorTree) (place : Place) (name : String)
    (rest : List String) :
    place.descend? tree (name :: rest) =
      (place.member? tree name).bind (·.descend? tree rest) := rfl

/-- The last key is followed from the place that the others lead to. -/
theorem Place.descend?_concat (tree : SelectorTree) (place : Place) (names : List String)
    (name : String) :
    place.descend? tree (names ++ [name]) =
      (place.descend? tree names).bind (·.member? tree name) := by
  unfold descend?
  rw [List.foldlM_append]
  cases names.foldlM (fun place name => place.member? tree name) place with
  | none => rfl
  | some inner => exact bind_pure (inner.member? tree name)

/-- Where pruning is off, it stays off. -/
theorem Place.isSome_descend?_of_not_prune (h : place.prune = false) (names : List String) :
    (place.descend? tree names).isSome = true := by
  induction names generalizing place with
  | nil => rfl
  | cons name rest ih =>
      rw [descend?_cons, member?, h, if_neg Bool.false_ne_true]
      exact ih rfl

/-- Where pruning is on, a key leads to a place exactly if it leads to a node, because every node
leads to something that is asked for. -/
theorem Place.member?_of_means {node : Node} {asked : Node.Asked} (h : node.Means asked)
    (name : String) :
    Place.member? tree ⟨some node, true⟩ name =
      (node.matchChild name).map fun child => ⟨some child, !child.isSelected .fields⟩ := by
  unfold member?
  rw [if_pos rfl, Option.bind_some]
  cases hchild : node.matchChild name with
  | none => rfl
  | some child =>
      obtain ⟨-, -, kind, hknown⟩ := h.of_matchChild hchild
      have hkeep : (tree.keepsForFields child || child.hasInSubtree .preload) = true := by
        unfold SelectorTree.keepsForFields
        cases kind with
        | preload => rw [hknown, Bool.or_true]
        | fields => rw [hknown, Bool.or_true, Bool.true_or]
      exact if_pos hkeep

/-- Where pruning is on, concrete keys lead to a place exactly if the tree keeps their path. -/
theorem Place.isSome_descend? {node : Node} {asked : Node.Asked} (h : node.Means asked)
    (hself : node.isSelected .fields = false) (names : List String) :
    (Place.descend? tree ⟨some node, true⟩ names).isSome = node.keepsPath names := by
  -- Pruning stays on down to the first node that is selected by `fields`; the induction ends there.
  induction names generalizing node asked with
  | nil => rfl
  | cons name rest ih =>
      rw [descend?_cons, member?_of_means h, Node.keepsPath_cons hself]
      cases hchild : node.matchChild name with
      | none => rfl
      | some child =>
          rw [Option.map_some, Option.bind_some, Option.any_some]
          obtain ⟨below, hmeans, -⟩ := h.of_matchChild hchild
          cases hselected : child.isSelected .fields with
          | true =>
              rw [Node.keepsPath_of_isSelected hselected]
              exact isSome_descend?_of_not_prune rfl rest
          | false => exact ih hmeans hselected

/-! ## Arrays -/

/-- What is left of an array are its first elements, with `null` for those that are pruned. -/
theorem trim_prefix_map_getD (slots : List (Option Json)) :
    trim slots <+: slots.map fun slot => slot.getD .null := by
  induction slots with
  | nil => exact List.prefix_rfl
  | cons slot rest ih =>
      cases slot with
      | some element =>
          rw [trim_some_cons]
          exact List.prefix_cons_inj _ |>.mpr ih
      | none =>
          rw [trim_none_cons]
          cases htrim : trim rest with
          | nil => exact List.nil_prefix
          | cons first more =>
              rw [htrim] at ih
              exact List.prefix_cons_inj _ |>.mpr ih

/-- Behind a gap there is one element more than was kept, if any was. -/
theorem lt_length_behindGap_iff (kept : List Json) (index : Nat) :
    index < (behindGap kept).length ↔ index - 1 < kept.length := by
  cases kept with
  | nil => simp [behindGap]
  | cons first more =>
      rw [behindGap_cons, List.length_cons, List.length_cons]
      omega

/-- An index is inside what is left of an array if some element is kept there or behind. -/
theorem lt_length_trim_iff (slots : List (Option Json)) (index : Nat) :
    index < (trim slots).length ↔
      ∃ later element, index ≤ later ∧ slots[later]? = some (some element) := by
  induction slots generalizing index with
  | nil => simp
  | cons slot rest ih =>
      have hbehind : (∃ later element, index - 1 ≤ later ∧ rest[later]? = some (some element)) →
          ∃ later element, index ≤ later ∧ (slot :: rest)[later]? = some (some element) := by
        rintro ⟨later, element, hle, hslot⟩
        exact ⟨later + 1, element, by omega, by rwa [List.getElem?_cons_succ]⟩
      cases slot with
      | none =>
          rw [trim_none_cons, lt_length_behindGap_iff, ih]
          refine ⟨hbehind, ?_⟩
          rintro ⟨later, element, hle, hslot⟩
          cases later with
          | zero => simp at hslot
          | succ later =>
              rw [List.getElem?_cons_succ] at hslot
              exact ⟨later, element, by omega, hslot⟩
      | some element =>
          rw [trim_some_cons, List.length_cons]
          cases index with
          | zero => exact iff_of_true (Nat.zero_lt_succ _) ⟨0, element, Nat.le_refl 0, rfl⟩
          | succ index =>
              rw [Nat.add_lt_add_iff_right, ih]
              refine ⟨hbehind, ?_⟩
              rintro ⟨later, found, hle, hslot⟩
              cases later with
              | zero => omega
              | succ later =>
                  rw [List.getElem?_cons_succ] at hslot
                  exact ⟨later, found, by omega, hslot⟩

/-- A kept element is at its index in what is left of an array. -/
theorem getElem?_trim_of_some {slots : List (Option Json)} {index : Nat} {element : Json}
    (h : slots[index]? = some (some element)) : (trim slots)[index]? = some element := by
  have hlt : index < (trim slots).length :=
    (lt_length_trim_iff slots index).mpr ⟨index, element, Nat.le_refl index, h⟩
  rw [List.getElem?_eq_getElem hlt, (trim_prefix_map_getD slots).getElem hlt, ← List.getElem?_eq_getElem,
    List.getElem?_map, h]
  rfl

/-- A pruned element before the last kept one is `null` in what is left of an array. -/
theorem getElem?_trim_of_none {slots : List (Option Json)} {index : Nat}
    (hlt : index < (trim slots).length) (h : slots[index]? = some none) :
    (trim slots)[index]? = some .null := by
  rw [List.getElem?_eq_getElem hlt, (trim_prefix_map_getD slots).getElem hlt, ← List.getElem?_eq_getElem,
    List.getElem?_map, h]
  rfl

/-- Where every element is kept, the array is left as it is. -/
theorem trim_map_some (elements : List Json) : trim (elements.map some) = elements := by
  induction elements with
  | nil => rfl
  | cons element rest ih => rw [List.map_cons, trim_some_cons, ih]

/-! ## What is kept at a place -/

/-- What is left of the elements of an array, index by index. -/
theorem getElem?_keptElements (tree : SelectorTree) (place : Place) (start : Nat)
    (elements : List Json) (index : Nat) :
    (keptElements tree place start elements)[index]? = elements[index]?.map fun element =>
      (place.member? tree (toString (start + index))).map fun inner => kept tree inner element := by
  induction elements generalizing start index with
  | nil => rfl
  | cons element rest ih =>
      rw [keptElements]
      cases index with
      | zero => rfl
      | succ index =>
          rw [List.getElem?_cons_succ, List.getElem?_cons_succ, ih, Nat.add_right_comm,
            Nat.add_assoc]

/-- What is left of the members of an object, name by name. -/
theorem lookup_keptMembers (tree : SelectorTree) (place : Place) (members : List (String × Json))
    (name : String) :
    (keptMembers tree place members).lookup name = (members.lookup name).bind fun member =>
      (place.member? tree name).map fun inner => kept tree inner member := by
  induction members with
  | nil => rfl
  | cons first rest ih =>
      obtain ⟨other, member⟩ := first
      rw [keptMembers]
      by_cases hname : name = other
      · subst hname
        rw [List.lookup_cons_self, Option.bind_some]
        cases hinner : place.member? tree name with
        | some inner =>
            dsimp only
            rw [List.lookup_cons_self]
            rfl
        | none =>
            dsimp only
            rw [ih, hinner]
            cases rest.lookup name <;> rfl
      · have hbeq : (name == other) = false := beq_eq_false_iff_ne.mpr hname
        rw [List.lookup_cons, hbeq]
        cases place.member? tree other with
        | none => exact ih
        | some inner =>
            dsimp only
            rw [List.lookup_cons, hbeq]
            exact ih

/-- The names of what is left of the members of an object. -/
theorem map_fst_keptMembers (tree : SelectorTree) (place : Place) (members : List (String × Json)) :
    (keptMembers tree place members).map (·.1) =
      (members.map (·.1)).filter fun name => (place.member? tree name).isSome := by
  induction members with
  | nil => rfl
  | cons first rest ih =>
      obtain ⟨name, member⟩ := first
      rw [keptMembers, List.map_cons]
      cases hinner : place.member? tree name with
      | none => rw [List.filter_cons_of_neg (by simp [hinner]), ih]
      | some inner =>
          dsimp only
          rw [List.filter_cons_of_pos (by simp [hinner]), List.map_cons, ih]

/-- A part that is kept is left where it was. -/
theorem kept_part? {document value : Json} {step : Json.Step}
    (hvalue : document.part? step = some value)
    (hinner : place.member? tree step.name = some inner) :
    (kept tree place document).part? step = some (kept tree inner value) := by
  cases document with
  | array elements =>
      cases step with
      | member name => cases hvalue
      | element index =>
          have helement : elements[index]? = some value := hvalue
          have hplace : place.member? tree (toString index) = some inner := hinner
          rw [kept]
          apply getElem?_trim_of_some
          rw [getElem?_keptElements, helement, Nat.zero_add, Option.map_some, hplace,
            Option.map_some]
  | object members =>
      cases step with
      | element index => cases hvalue
      | member name =>
          have hmember : members.lookup name = some value := hvalue
          have hplace : place.member? tree name = some inner := hinner
          have hlookup := lookup_keptMembers tree place members name
          rw [hmember, Option.bind_some, hplace, Option.map_some] at hlookup
          rw [kept]
          exact hlookup
  | _ => cases step <;> cases hvalue

/-- What is kept along a path is left at the path. -/
theorem kept_at? {document value : Json} {path : List Json.Step}
    (hvalue : document.at? path = some value)
    (hinner : place.descend? tree (path.map Json.Step.name) = some inner) :
    (kept tree place document).at? path = some (kept tree inner value) := by
  induction path generalizing document place with
  | nil =>
      obtain rfl := Option.some.inj hvalue
      obtain rfl := Option.some.inj hinner
      rfl
  | cons step rest ih =>
      rw [Json.at?_cons] at hvalue ⊢
      rw [List.map_cons, Place.descend?_cons] at hinner
      obtain ⟨part, hpart, hrest⟩ := Option.bind_eq_some_iff.mp hvalue
      obtain ⟨next, hnext, hbelow⟩ := Option.bind_eq_some_iff.mp hinner
      rw [kept_part? hpart hnext, Option.bind_some]
      exact ih hrest hbelow

/-- The elements that are kept, in the list where pruned ones are `none`. -/
theorem exists_keptElements_iff (elements : List Json) (index : Nat) :
    (∃ left, (keptElements tree place 0 elements)[index]? = some (some left)) ↔
      index < elements.length ∧ (place.member? tree (toString index)).isSome = true := by
  rw [getElem?_keptElements, Nat.zero_add]
  constructor
  · rintro ⟨left, hleft⟩
    obtain ⟨element, helement, hmap⟩ := Option.map_eq_some_iff.mp hleft
    obtain ⟨inner, hinner, -⟩ := Option.map_eq_some_iff.mp hmap
    obtain ⟨hlt, -⟩ := List.getElem?_eq_some_iff.mp helement
    exact ⟨hlt, Option.isSome_of_mem hinner⟩
  · rintro ⟨hlt, hsome⟩
    obtain ⟨inner, hinner⟩ := Option.isSome_iff_exists.mp hsome
    rw [List.getElem?_eq_getElem hlt, hinner]
    exact ⟨_, rfl⟩

/-- What is left of an array. -/
theorem pruned_trim_keptElements (tree : SelectorTree) (place : Place) (elements : List Json) :
    (Json.array elements).Pruned (fun step => (place.member? tree step.name).isSome)
      (.array (trim (keptElements tree place 0 elements))) := by
  have hlength : ∀ index, index < (trim (keptElements tree place 0 elements)).length ↔
      ∃ later, index ≤ later ∧ later < elements.length ∧
        (place.member? tree (toString later)).isSome = true := by
    intro index
    rw [lt_length_trim_iff]
    refine exists_congr fun later => ?_
    rw [exists_and_left, exists_keptElements_iff]
  cases hlast : (trim (keptElements tree place 0 elements)).length with
  | zero =>
      rw [List.eq_nil_of_length_eq_zero hlast]
      refine .emptied fun index hlt => ?_
      rw [← Bool.not_eq_true]
      intro hkept
      have hinside := (hlength index).mpr ⟨index, Nat.le_refl index, hlt, hkept⟩
      omega
  | succ last =>
      -- The last index that is left is that of a kept element: something is kept there or behind.
      obtain ⟨later, hle, hlt, hkept⟩ := (hlength last).mp (by omega)
      have hlater := (hlength later).mpr ⟨later, Nat.le_refl later, hlt, hkept⟩
      obtain rfl : later = last := by omega
      refine .array hlt hkept ?_ hlast ?_
      · intro index hindex hother
        have hinside := (hlength index).mpr ⟨index, Nat.le_refl index, hindex, hother⟩
        omega
      · intro index hindex hpruned
        apply getElem?_trim_of_none (by omega)
        have hnone : place.member? tree (toString index) = none :=
          Option.isNone_iff_eq_none.mp (Option.isSome_eq_false_iff.mp hpruned)
        rw [getElem?_keptElements, Nat.zero_add, hnone,
          List.getElem?_eq_getElem (Nat.lt_of_le_of_lt hindex hlt)]
        rfl

/-- What is left of a value. -/
theorem pruned_kept (tree : SelectorTree) (place : Place) (value : Json) :
    value.Pruned (fun step => (place.member? tree step.name).isSome) (kept tree place value) := by
  cases value with
  | null => exact .null
  | bool b => exact .bool b
  | number n => exact .number n
  | string raw => exact .string raw
  | array elements => exact pruned_trim_keptElements tree place elements
  | object members => exact .object (map_fst_keptMembers tree place members)

mutual

/-- Where pruning is off, everything is kept. -/
theorem kept_of_not_prune (tree : SelectorTree) {place : Place} (h : place.prune = false) :
    (document : Json) → kept tree place document = document
  | .null => rfl
  | .bool _ => rfl
  | .number _ => rfl
  | .string _ => rfl
  | .array elements => by
      rw [kept, keptElements_of_not_prune tree h 0 elements, trim_map_some]
  | .object members => by
      rw [kept, keptMembers_of_not_prune tree h members]

/-- The same of elements. -/
theorem keptElements_of_not_prune (tree : SelectorTree) {place : Place} (h : place.prune = false)
    (index : Nat) : (elements : List Json) →
      keptElements tree place index elements = elements.map some
  | [] => rfl
  | element :: rest => by
      rw [keptElements, keptElements_of_not_prune tree h (index + 1) rest, Place.member?, h,
        if_neg Bool.false_ne_true, Option.map_some, kept_of_not_prune tree rfl element]
      rfl

/-- The same of members. -/
theorem keptMembers_of_not_prune (tree : SelectorTree) {place : Place} (h : place.prune = false) :
    (members : List (String × Json)) → keptMembers tree place members = members
  | [] => rfl
  | (name, member) :: rest => by
      rw [keptMembers, keptMembers_of_not_prune tree h rest, Place.member?, h,
        if_neg Bool.false_ne_true]
      dsimp only
      rw [kept_of_not_prune tree rfl member]

end

end Pruning

/-! ## Whole documents -/

namespace SelectorTree

/-- Without `fields` pointers nothing is pruned. -/
theorem prune_of_not_fieldsActive {tree : SelectorTree} (h : tree.fieldsActive = false)
    (document : Json) : tree.prune document = document := by
  rw [prune_eq_kept]
  refine Pruning.kept_of_not_prune tree ?_ document
  rw [Pruning.start, h, Bool.false_and]

/-- What a walk that keeps every string leaves of a document. Nothing is pruned without a `fields`
pointer, or with one that is the root. Otherwise there is, at every path of the document that is
kept, a value of the same kind: a scalar as it is, an object with exactly the members whose paths
are kept, and an array up to the last element whose path is kept, with `null` for the others. -/
theorem prune_at? (inserts : List (String × Kind)) (document : Json) :
    ((ofInserts inserts).fieldsActive = false ∨ (ofInserts inserts).root.isSelected .fields = true →
      (ofInserts inserts).prune document = document) ∧
    ((ofInserts inserts).fieldsActive = true → (ofInserts inserts).root.isSelected .fields = false →
      ∀ (path : List Json.Step) (value : Json), document.at? path = some value →
        (ofInserts inserts).root.keepsPath (path.map Json.Step.name) = true →
          ∃ left, ((ofInserts inserts).prune document).at? path = some left ∧
            value.Pruned (fun step =>
              (ofInserts inserts).root.keepsPath ((path ++ [step]).map Json.Step.name)) left) := by
  have hprune := (ofInserts inserts).prune_eq_kept document
  constructor
  · intro hoff
    rw [hprune]
    apply Pruning.kept_of_not_prune
    unfold Pruning.start
    rcases hoff with hinactive | hroot
    · rw [hinactive]
      rfl
    · rw [hroot, Bool.not_true, Bool.and_false]
  · intro hactive hroot path value hvalue hkept
    have hstart : Pruning.start (ofInserts inserts) = ⟨some (ofInserts inserts).root, true⟩ := by
      unfold Pruning.start
      rw [hactive, hroot]
      rfl
    have hdescend : ∀ names,
        (Pruning.Place.descend? (ofInserts inserts) ⟨some (ofInserts inserts).root, true⟩
          names).isSome = (ofInserts inserts).root.keepsPath names :=
      Pruning.Place.isSome_descend? (means_ofInserts inserts) hroot
    rw [← hdescend] at hkept
    obtain ⟨inner, hinner⟩ := Option.isSome_iff_exists.mp hkept
    refine ⟨Pruning.kept (ofInserts inserts) inner value, ?_, ?_⟩
    · rw [hprune, hstart]
      exact Pruning.kept_at? hvalue hinner
    · have hkeeps : (fun step : Json.Step =>
          (ofInserts inserts).root.keepsPath ((path ++ [step]).map Json.Step.name)) =
          fun step => (inner.member? (ofInserts inserts) step.name).isSome := by
        funext step
        rw [← hdescend, List.map_append, List.map_singleton, Pruning.Place.descend?_concat, hinner,
          Option.bind_some]
      rw [hkeeps]
      exact Pruning.pruned_kept (ofInserts inserts) inner value

/-- The first element leaves a gap, the last one does not. -/
example :
    (ofInserts [("/1", .fields)]).prune (.array [.bool true, .bool false, .bool true]) =
      .array [.null, .bool false] := by
  rfl

end SelectorTree

end Hypermedia
