import Hypermedia.Selector.Pointer

/-!
# The selector tree

The pointers of both directives of a request, merged into one tree. A node of the tree is a
place that some pointer leads to or through.

* `Kind` names the two directives, `Selection` is a set of them.
* `Node` holds the directives whose pointers end there and those that reach it or something
  below; its children are sorted, the wildcard last.
* `SelectorTree.insert` adds a pointer, `SelectorTree.build` merges two lists of pointers.
* `Node.matchChild` follows a concrete key: a child of that name wins over the wildcard.
* `Node.subSelectors` lists the selections strictly below a node, as pointers relative to it.
-/

namespace Hypermedia

/-! ## Directives and sets of them -/

/-- The two directives that a client may send. -/
inductive Kind where
  /-- Relations to deliver ahead of the client's asking. -/
  | preload
  /-- The parts of the document to keep. -/
  | fields
  deriving DecidableEq, Repr, Inhabited

namespace Kind

/-- The name of the directive, as header and as query parameter. -/
def name : Kind → String
  | preload => "preload"
  | fields => "fields"

/-- Both directives. -/
def all : List Kind := [preload, fields]

end Kind

/-- A set of directives. -/
structure Selection where
  /-- Whether the set holds `Kind.preload`. -/
  preload : Bool := false
  /-- Whether the set holds `Kind.fields`. -/
  fields : Bool := false
  deriving DecidableEq, Repr, Inhabited

namespace Selection

/-- Whether the set holds the directive. -/
def contains (s : Selection) : Kind → Bool
  | .preload => s.preload
  | .fields => s.fields

/-- Adds a directive. -/
def insert (s : Selection) : Kind → Selection
  | .preload => { s with preload := true }
  | .fields => { s with fields := true }

/-- Whether the set holds no directive. -/
def isEmpty (s : Selection) : Bool :=
  !s.preload && !s.fields

/-- A directive is in a set after its insertion, and no other one enters. -/
@[simp] theorem contains_insert (s : Selection) (k l : Kind) :
    (s.insert k).contains l = (decide (k = l) || s.contains l) := by
  cases k <;> cases l <;> rfl

end Selection

/-! ## Nodes -/

/-- A place that some pointer leads to or through. -/
inductive Node where
  /-- A node with its absolute pointer, the directives selecting it, the directives selecting it
  or something below, and its children in the order of their segments. -/
  | mk (pointer : String) (selected inSubtree : Selection) (children : List (Segment × Node))
  deriving Repr

namespace Node

/-- A node that nothing selects yet. -/
def empty (pointer : String) : Node :=
  mk pointer {} {} []

instance : Inhabited Node := ⟨empty ""⟩

/-- The absolute pointer of the node, with `*` for a wildcard. -/
def pointer : Node → String
  | mk pointer _ _ _ => pointer

/-- The directives with a pointer that ends at this node. -/
def selected : Node → Selection
  | mk _ selected _ _ => selected

/-- The directives with a pointer that ends at this node or below. -/
def inSubtree : Node → Selection
  | mk _ _ inSubtree _ => inSubtree

/-- The children, in the order of their segments. -/
def children : Node → List (Segment × Node)
  | mk _ _ _ children => children

/-- Whether a pointer of the directive ends at this node. -/
def isSelected (node : Node) (kind : Kind) : Bool :=
  node.selected.contains kind

/-- Whether a pointer of the directive ends at this node or below. -/
def hasInSubtree (node : Node) (kind : Kind) : Bool :=
  node.inSubtree.contains kind

/-- The child of exactly this segment. -/
def child? (node : Node) (segment : Segment) : Option Node :=
  node.children.lookup segment

/-- The child that a concrete key or index leads to. A child of that name wins over the
wildcard. -/
def matchChild (node : Node) (name : String) : Option Node :=
  match node.child? (.key name) with
  | some child => some child
  | none => node.child? .wildcard

/-- Follows several concrete keys. -/
def follow? (node : Node) (names : List String) : Option Node :=
  names.foldlM (fun node name => node.matchChild name) node

/-! ## Insertion -/

/-- Replaces the entry of a segment, or inserts one at its place in the order. -/
def upsert (segment : Segment) (update : Option Node → Node) :
    List (Segment × Node) → List (Segment × Node)
  | [] => [(segment, update none)]
  | (other, node) :: rest =>
    if segment = other then (other, update (some node)) :: rest
    else if segment.before other then (segment, update none) :: (other, node) :: rest
    else (other, node) :: upsert segment update rest

/-- Adds the rest of a pointer below a node; the nodes that are missing on the way are made. -/
def insert (kind : Kind) : List Segment → Node → Node
  | [], mk pointer selected inSubtree children =>
    mk pointer (selected.insert kind) (inSubtree.insert kind) children
  | segment :: rest, mk pointer selected inSubtree children =>
    let made := empty (pointer ++ "/" ++ segment.text)
    mk pointer selected (inSubtree.insert kind)
      (upsert segment (fun child => insert kind rest (child.getD made)) children)

/-! ## Selections below a node -/

mutual

/-- The selections strictly below a node, each before those below it. -/
def selectorsUnder (kind : Kind) (start : String) : Node → List String
  | mk _ _ _ children => branchSelectors kind start children

/-- The selections at some children and below them. -/
def branchSelectors (kind : Kind) (start : String) : List (Segment × Node) → List String
  | [] => []
  | (segment, child) :: rest =>
    let path := start ++ "/" ++ segment.text
    let found :=
      if child.hasInSubtree kind then
        (if child.isSelected kind then [path] else []) ++ selectorsUnder kind path child
      else []
    found ++ branchSelectors kind start rest

end

/-- Every selection of the directive strictly below the node, as a pointer relative to it. -/
def subSelectors (node : Node) (kind : Kind) : List String :=
  selectorsUnder kind "" node

end Node

/-! ## Trees -/

/-- The merged pointers of one request. -/
structure SelectorTree where
  /-- The node of the whole document. -/
  root : Node
  /-- Whether some `fields` pointer was inserted, so that the document has to be pruned. -/
  fieldsActive : Bool
  deriving Repr

namespace SelectorTree

/-- The tree without pointers. -/
def empty : SelectorTree := ⟨.empty "", false⟩

instance : Inhabited SelectorTree := ⟨empty⟩

/-- Adds one pointer. -/
def insert (tree : SelectorTree) (pointer : String) (kind : Kind) : SelectorTree :=
  ⟨tree.root.insert kind (Segment.ofPointer pointer), tree.fieldsActive || kind = .fields⟩

/-- Merges the pointers of both directives. -/
def build (preload fields : List String) : SelectorTree :=
  let tree := preload.foldl (fun tree pointer => tree.insert pointer .preload) empty
  fields.foldl (fun tree pointer => tree.insert pointer .fields) tree

/-- Whether the tree holds no pointer. -/
def isEmpty (tree : SelectorTree) : Bool :=
  tree.root.inSubtree.isEmpty

/-- Whether a node survives pruning on its own merits; without `fields` pointers every node
does. -/
def keepsForFields (tree : SelectorTree) (node : Node) : Bool :=
  !tree.fieldsActive || node.hasInSubtree .fields

end SelectorTree

end Hypermedia
