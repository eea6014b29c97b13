import Mathlib.Data.List.Basic
import Hypermedia.Pruning

/-!
# What pruning keeps of a document

A walk that keeps every string only prunes. What is left of a document then can be walked instead
of the document: the parts that are missing are those that a walk would not have entered.

* `Pruning.kept` is what is left of a document at a place, as a function.
* `Pruning.walk_keepStrings` says that the walk which keeps every string computes it.
* `Pruning.walk_kept` says that a walk of what is left does the same as a walk of the document.
* `SelectorTree.calls` are the calls of a walk in order, `SelectorTree.transform_prune` is the
  statement for whole documents.
-/

namespace Hypermedia

namespace Pruning

/-! ## Arrays with gaps -/

/-- The elements behind one that is pruned: it is `null` if some element is kept behind it. -/
def behindGap : List Json → List Json
  | [] => []
  | kept => .null :: kept

theorem behindGap_nil : behindGap [] = [] := rfl

theorem behindGap_cons (first : Json) (more : List Json) :
    behindGap (first :: more) = .null :: first :: more := rfl

@[simp] theorem trim_nil : trim [] = [] := rfl

/-- A pruned element at the front. -/
theorem trim_none_cons (rest : List (Option Json)) :
    trim (none :: rest) = behindGap (trim rest) := by
  cases h : trim rest with
  | nil => simp only [trim, h, behindGap]
  | cons kept more => simp only [trim, h, behindGap]

/-- A kept element at the front. -/
theorem trim_some_cons (element : Json) (rest : List (Option Json)) :
    trim (some element :: rest) = element :: trim rest := rfl

/-! ## What is kept -/

mutual

/-- What is left of a document at a place. -/
def kept (tree : SelectorTree) (place : Place) : Json → Json
  | .null => .null
  | .bool b => .bool b
  | .number n => .number n
  | .string raw => .string raw
  | .array elements => .array (trim (keptElements tree place 0 elements))
  | .object members => .object (keptMembers tree place members)

/-- What is left of the elements of an array from an index on; pruned ones are `none`. -/
def keptElements (tree : SelectorTree) (place : Place) (index : Nat) :
    List Json → List (Option Json)
  | [] => []
  | element :: rest =>
    (place.member? tree (toString index)).map (fun inner => kept tree inner element) ::
      keptElements tree place (index + 1) rest

/-- What is left of the members of an object. -/
def keptMembers (tree : SelectorTree) (place : Place) : List (String × Json) → List (String × Json)
  | [] => []
  | (name, member) :: rest =>
    match place.member? tree name with
    | none => keptMembers tree place rest
    | some inner => (name, kept tree inner member) :: keptMembers tree place rest

end

variable {σ : Type}

mutual

/-- The walk that keeps every string prunes, and does nothing else. -/
theorem walk_keepStrings (tree : SelectorTree) (place : Place) : (document : Json) →
    walk (σ := σ) tree keepStrings place document = pure (kept tree place document)
  | .null => rfl
  | .bool _ => rfl
  | .number _ => rfl
  | .string raw => by
      rw [walk, kept, resolveString]
      cases place.node with
      | none => rfl
      | some node =>
          dsimp only
          split_ifs <;> rfl
  | .array elements => by
      rw [walk, kept, walkElements_keepStrings tree place 0 elements, pure_bind]
  | .object members => by
      rw [walk, kept, walkMembers_keepStrings tree place members, pure_bind]

/-- The same of elements. -/
theorem walkElements_keepStrings (tree : SelectorTree) (place : Place) (index : Nat) :
    (elements : List Json) → walkElements (σ := σ) tree keepStrings place index elements =
      pure (keptElements tree place index elements)
  | [] => rfl
  | element :: rest => by
      rw [walkElements, keptElements, walkElements_keepStrings tree place (index + 1) rest]
      cases place.member? tree (toString index) with
      | none => rfl
      | some inner =>
          dsimp only
          rw [walk_keepStrings tree inner element]
          rfl

/-- The same of members. -/
theorem walkMembers_keepStrings (tree : SelectorTree) (place : Place) :
    (members : List (String × Json)) → walkMembers (σ := σ) tree keepStrings place members =
      pure (keptMembers tree place members)
  | [] => rfl
  | (name, member) :: rest => by
      rw [walkMembers, keptMembers, walkMembers_keepStrings tree place rest]
      cases place.member? tree name with
      | none => rfl
      | some inner =>
          dsimp only
          rw [walk_keepStrings tree inner member]
          rfl

end

/-! ## Walking what is kept -/

variable {resolve : Node → String → StateM σ (Option String)}

/-- A walk of elements, of which the first is pruned. -/
theorem trim_walkElements_cons_of_none {tree : SelectorTree} {place : Place} {index : Nat}
    (h : place.member? tree (toString index) = none) (element : Json) (rest : List Json) :
    trim <$> walkElements tree resolve place index (element :: rest) =
      behindGap <$> (trim <$> walkElements tree resolve place (index + 1) rest) := by
  rw [walkElements, h]
  simp only [pure_bind, map_bind, map_pure, trim_none_cons, Functor.map_map]
  rfl

/-- A walk of elements, of which the first is kept. -/
theorem trim_walkElements_cons_of_some {tree : SelectorTree} {place inner : Place} {index : Nat}
    (h : place.member? tree (toString index) = some inner) (element : Json) (rest : List Json) :
    trim <$> walkElements tree resolve place index (element :: rest) = (do
      let walked ← walk tree resolve inner element
      let more ← trim <$> walkElements tree resolve place (index + 1) rest
      pure (walked :: more)) := by
  rw [walkElements, h]
  simp only [pure_bind, map_bind, map_pure, trim_some_cons, bind_map_left]

mutual

/-- A walk of what is left of a document does the same as a walk of the document. -/
theorem walk_kept (tree : SelectorTree) (place : Place) : (document : Json) →
    walk tree resolve place (kept tree place document) = walk tree resolve place document
  | .null => rfl
  | .bool _ => rfl
  | .number _ => rfl
  | .string _ => rfl
  | .array elements => by
      have harray : ∀ elements, walk tree resolve place (.array elements) =
          Json.array <$> (trim <$> walkElements tree resolve place 0 elements) := by
        intro elements
        rw [walk, Functor.map_map, ← bind_pure_comp]
      rw [kept, harray, harray, trim_walkElements_kept tree place 0 elements]
  | .object members => by
      rw [kept, walk, walk, walkMembers_kept tree place members]

/-- The same of elements. Those that are missing or `null` are not entered. -/
theorem trim_walkElements_kept (tree : SelectorTree) (place : Place) (index : Nat) :
    (elements : List Json) →
      trim <$> walkElements tree resolve place index
          (trim (keptElements tree place index elements)) =
        trim <$> walkElements tree resolve place index elements
  | [] => rfl
  | element :: rest => by
      have hrest := trim_walkElements_kept tree place (index + 1) rest
      rw [keptElements]
      cases hmember : place.member? tree (toString index) with
      | none =>
          rw [Option.map_none, trim_none_cons, trim_walkElements_cons_of_none hmember, ← hrest]
          -- Behind the last kept element there is nothing left to walk.
          cases trim (keptElements tree place (index + 1) rest) with
          | nil =>
              rw [behindGap_nil, walkElements, walkElements, map_pure, map_pure]
              rfl
          | cons first more =>
              rw [behindGap_cons, trim_walkElements_cons_of_none hmember]
      | some inner =>
          rw [Option.map_some, trim_some_cons, trim_walkElements_cons_of_some hmember,
            trim_walkElements_cons_of_some hmember, walk_kept tree inner element, hrest]

/-- The same of members. -/
theorem walkMembers_kept (tree : SelectorTree) (place : Place) : (members : List (String × Json)) →
    walkMembers tree resolve place (keptMembers tree place members) =
      walkMembers tree resolve place members
  | [] => rfl
  | (name, member) :: rest => by
      have hrest := walkMembers_kept tree place rest
      rw [keptMembers, walkMembers]
      cases hmember : place.member? tree name with
      | none => exact hrest
      | some inner =>
          dsimp only
          rw [walkMembers, hmember]
          dsimp only
          rw [walk_kept tree inner member, hrest]

end

/-! ## The calls of a walk -/

/-- A resolution that also writes down what it is called with. -/
def noted (resolve : Node → String → StateM σ (Option String)) (node : Node) (raw : String) :
    StateM (σ × List (Node × String)) (Option String) := do
  let (state, calls) ← get
  let (replacement, after) := (resolve node raw).run state
  set (after, calls ++ [(node, raw)])
  pure replacement

/-- Two computations that do the same, where one writes down calls behind those that are there. -/
def Notes {α : Type} (plain : StateM σ α) (noting : StateM (σ × List (Node × String)) α) : Prop :=
  ∀ state, ∃ more, ∀ calls, noting.run (state, calls) =
    (((plain.run state).1, (plain.run state).2, calls ++ more) : α × σ × List (Node × String))

namespace Notes

variable {α β : Type}

/-- A computation that does nothing has no calls. -/
theorem pure (a : α) : Notes (pure a : StateM σ α) (pure a) := by
  intro state
  refine ⟨[], fun calls => ?_⟩
  rw [List.append_nil]
  rfl

/-- Calls are written down one computation after the other. -/
theorem bind {plain : StateM σ α} {noting : StateM (σ × List (Node × String)) α}
    {next : α → StateM σ β} {nextNoting : α → StateM (σ × List (Node × String)) β}
    (h : Notes plain noting) (hnext : ∀ a, Notes (next a) (nextNoting a)) :
    Notes (plain >>= next) (noting >>= nextNoting) := by
  intro state
  obtain ⟨first, hfirst⟩ := h state
  obtain ⟨second, hsecond⟩ := hnext (plain.run state).1 (plain.run state).2
  refine ⟨first ++ second, fun calls => ?_⟩
  rw [StateT.run_bind, hfirst, ← List.append_assoc]
  exact hsecond (calls ++ first)

/-- A call is written down. -/
theorem noted (resolve : Node → String → StateM σ (Option String)) (node : Node) (raw : String) :
    Notes (resolve node raw) (noted resolve node raw) :=
  fun _ => ⟨[(node, raw)], fun _ => rfl⟩

end Notes

mutual

/-- A walk that writes down its calls does what the walk does. -/
theorem notes_walk (tree : SelectorTree) (place : Place) : (document : Json) →
    Notes (walk tree resolve place document) (walk tree (noted resolve) place document)
  | .null => .pure _
  | .bool _ => .pure _
  | .number _ => .pure _
  | .string raw => by
      rw [walk, walk, resolveString, resolveString]
      cases place.node with
      | none => exact .pure _
      | some node =>
          dsimp only
          split_ifs
          · exact .bind (.noted resolve node raw) fun _ => .pure _
          · exact .pure _
  | .array elements => by
      rw [walk, walk]
      exact .bind (notes_walkElements tree place 0 elements) fun _ => .pure _
  | .object members => by
      rw [walk, walk]
      exact .bind (notes_walkMembers tree place members) fun _ => .pure _

/-- The same of elements. -/
theorem notes_walkElements (tree : SelectorTree) (place : Place) (index : Nat) :
    (elements : List Json) → Notes (walkElements tree resolve place index elements)
      (walkElements tree (noted resolve) place index elements)
  | [] => .pure _
  | element :: rest => by
      have hrest := notes_walkElements tree place (index + 1) rest
      rw [walkElements, walkElements]
      cases place.member? tree (toString index) with
      | none => exact .bind (.pure none) fun _ => .bind hrest fun _ => .pure _
      | some inner =>
          exact .bind (notes_walk tree inner element) fun _ =>
            .bind (.pure (some _)) fun _ => .bind hrest fun _ => .pure _

/-- The same of members. -/
theorem notes_walkMembers (tree : SelectorTree) (place : Place) : (members : List (String × Json)) →
    Notes (walkMembers tree resolve place members) (walkMembers tree (noted resolve) place members)
  | [] => .pure _
  | (name, member) :: rest => by
      have hrest := notes_walkMembers tree place rest
      rw [walkMembers, walkMembers]
      cases place.member? tree name with
      | none => exact hrest
      | some inner =>
          exact .bind (notes_walk tree inner member) fun _ => .bind hrest fun _ => .pure _

end

end Pruning

/-! ## Whole documents -/

namespace SelectorTree

/-- The calls that a walk of a document makes from a state on, in order. -/
def calls {σ : Type} (tree : SelectorTree) (resolve : Node → String → StateM σ (Option String))
    (document : Json) (state : σ) : List (Node × String) :=
  ((transform tree (Pruning.noted resolve) document).run (state, [])).2.2

/-- Writing down the calls of a walk does not change what it does. -/
theorem transform_noted_run {σ : Type} (tree : SelectorTree)
    (resolve : Node → String → StateM σ (Option String)) (document : Json) (state : σ) :
    (transform tree (Pruning.noted resolve) document).run (state, []) =
      ((((transform tree resolve document).run state).1,
        ((transform tree resolve document).run state).2, tree.calls resolve document state) :
          Json × σ × List (Node × String)) := by
  have hnotes : Pruning.Notes (transform tree resolve document)
      (transform tree (Pruning.noted resolve) document) :=
    Pruning.notes_walk tree (Pruning.start tree) document
  obtain ⟨more, hmore⟩ := hnotes state
  unfold calls
  rw [hmore []]

/-- What the tree leaves of a document, with every string kept. -/
def prune (tree : SelectorTree) (document : Json) : Json :=
  ((transform tree keepStrings document).run ()).1

/-- Pruning is what is kept from the place of the whole document on. -/
theorem prune_eq_kept (tree : SelectorTree) (document : Json) :
    tree.prune document = Pruning.kept tree (Pruning.start tree) document := by
  unfold prune transform
  rw [Pruning.walk_keepStrings]
  rfl

/-- A document may be pruned before it is walked. The walk then yields the same document, goes
through the same states and makes the same calls in the same order. So nothing is left to prune in
a pruned document. -/
theorem transform_prune (tree : SelectorTree) (document : Json) :
    (∀ {σ : Type} (resolve : Node → String → StateM σ (Option String)),
      transform tree resolve (tree.prune document) = transform tree resolve document ∧
        ∀ state,
          tree.calls resolve (tree.prune document) state = tree.calls resolve document state) ∧
      tree.prune (tree.prune document) = tree.prune document := by
  have hsame : ∀ {σ : Type} (resolve : Node → String → StateM σ (Option String)),
      transform tree resolve (tree.prune document) = transform tree resolve document := by
    intro σ resolve
    rw [prune_eq_kept]
    exact Pruning.walk_kept tree (Pruning.start tree) document
  refine ⟨fun resolve => ⟨hsame resolve, fun state => ?_⟩, ?_⟩
  · unfold calls
    rw [hsame]
  · conv_rhs => rw [prune, ← hsame keepStrings]
    rfl

end SelectorTree

end Hypermedia
