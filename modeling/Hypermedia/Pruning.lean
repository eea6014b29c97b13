import Hypermedia.Json.Basic
import Hypermedia.Selector.Tree

/-!
# Pruning and resolving documents

A walk over a document along the selector tree. With `fields` pointers, only what leads to a
selected node is kept, and everything below a node selected by `fields` is kept whole; what leads
to a `preload` selection is kept too, so that the relations asked for stay in the document.

* `transform` walks a document. Every string at a node selected by `preload` goes, in document
  order, to the function `resolve`, which may replace it and carries a state.
* `Pruning.trim` is what happens to arrays: pruned elements are dropped at the end and become
  `null` elsewhere, so that the kept ones stay at their index.
-/

namespace Hypermedia

namespace Pruning

/-- An array whose pruned elements are `none`: those at the end are dropped, the others become
`null`. -/
def trim : List (Option Json) → List Json
  | [] => []
  | element :: rest =>
    match element, trim rest with
    | none, [] => []
    | none, kept => .null :: kept
    | some element, kept => element :: kept

/-- Where a walk stands: the node of the tree, if the tree leads here, and whether parts that the
tree does not ask for are pruned. -/
structure Place where
  /-- The node that the path so far leads to. -/
  node : Option Node
  /-- Whether pruning is on. -/
  prune : Bool

/-- The place of a member or element, unless it is pruned. -/
def Place.member? (tree : SelectorTree) (place : Place) (name : String) : Option Place :=
  let child := place.node.bind (·.matchChild name)
  if place.prune then
    match child with
    | none => none
    | some child =>
      if tree.keepsForFields child || child.hasInSubtree .preload then
        some ⟨child, !child.isSelected .fields⟩
      else none
  else some ⟨child, false⟩

variable {σ : Type}

/-- What happens to a string at a place. -/
def resolveString (resolve : Node → String → StateM σ (Option String)) (place : Place)
    (raw : String) : StateM σ Json :=
  match place.node with
  | some node =>
    if node.isSelected .preload then do
      let replacement ← resolve node raw
      pure (.string (replacement.getD raw))
    else pure (.string raw)
  | none => pure (.string raw)

mutual

/-- Walks a document at a place. -/
def walk (tree : SelectorTree) (resolve : Node → String → StateM σ (Option String))
    (place : Place) : Json → StateM σ Json
  | .null => pure .null
  | .bool b => pure (.bool b)
  | .number n => pure (.number n)
  | .string raw => resolveString resolve place raw
  | .array elements => do
    let walked ← walkElements tree resolve place 0 elements
    pure (.array (trim walked))
  | .object members => do
    let walked ← walkMembers tree resolve place members
    pure (.object walked)

/-- Walks the elements of an array from an index on; pruned ones become `none`. -/
def walkElements (tree : SelectorTree) (resolve : Node → String → StateM σ (Option String))
    (place : Place) (index : Nat) : List Json → StateM σ (List (Option Json))
  | [] => pure []
  | element :: rest => do
    let walked ←
      match place.member? tree (toString index) with
      | none => pure none
      | some inner => do
        let walked ← walk tree resolve inner element
        pure (some walked)
    let more ← walkElements tree resolve place (index + 1) rest
    pure (walked :: more)

/-- Walks the members of an object; pruned ones are left out. -/
def walkMembers (tree : SelectorTree) (resolve : Node → String → StateM σ (Option String))
    (place : Place) : List (String × Json) → StateM σ (List (String × Json))
  | [] => pure []
  | (name, member) :: rest =>
    match place.member? tree name with
    | none => walkMembers tree resolve place rest
    | some inner => do
      let walked ← walk tree resolve inner member
      let more ← walkMembers tree resolve place rest
      pure ((name, walked) :: more)

end

/-- The place of the whole document. -/
def start (tree : SelectorTree) : Place :=
  ⟨some tree.root, tree.fieldsActive && !tree.root.isSelected .fields⟩

end Pruning

/-- Prunes a document to the selections of the tree and resolves the strings that `preload`
selects. -/
def transform {σ : Type} (tree : SelectorTree)
    (resolve : Node → String → StateM σ (Option String)) (document : Json) : StateM σ Json :=
  Pruning.walk tree resolve (Pruning.start tree) document

/-- The resolution that keeps every string. -/
def keepStrings {σ : Type} (_ : Node) (_ : String) : StateM σ (Option String) :=
  pure none

end Hypermedia
