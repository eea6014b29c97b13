/-!
# Nodes of a YAML document

A document is a tree of nodes. A reference stands for a node with an anchor. Anchors are numbered
by how many different names are known when they occur, so that a later anchor may take the number
of an earlier one; then all references with that number stand for the later node.

* `Node` is a node; `Node.nodes` lists a tree, and `Node.size` is the number of its marks.
* `Document` is a tree with its anchors; `Document.follow?` finds what a reference stands for.
-/

namespace Hypermedia.Yaml

/-- A node. -/
inductive Node where
  /-- A text, with its tag, and whether it is written plainly. -/
  | scalar (anchor : Option Nat) (tag : Option String) (text : String) (plain : Bool)
  /-- A sequence of nodes. -/
  | sequence (anchor : Option Nat) (tag : Option String) (elements : List Node)
  /-- Keys and their values. -/
  | mapping (anchor : Option Nat) (tag : Option String) (entries : List (Node × Node))
  /-- A reference to an anchor by its number. -/
  | reference (number : Nat)
  deriving Repr, Inhabited

namespace Node

/-- What stands where nothing is written. -/
def empty : Node :=
  .scalar none none "" true

/-- The number of the anchor of a node. -/
def anchor? : Node → Option Nat
  | scalar anchor .. => anchor
  | sequence anchor .. => anchor
  | mapping anchor .. => anchor
  | reference _ => none

mutual

/-- The nodes of a tree in the order they begin. -/
def nodes : Node → List Node
  | scalar anchor tag text plain => [scalar anchor tag text plain]
  | sequence anchor tag elements => sequence anchor tag elements :: nodesOfAll elements
  | mapping anchor tag entries => mapping anchor tag entries :: nodesOfEntries entries
  | reference number => [reference number]

/-- The nodes of all elements. -/
def nodesOfAll : List Node → List Node
  | [] => []
  | element :: rest => nodes element ++ nodesOfAll rest

/-- The nodes of all keys and values. -/
def nodesOfEntries : List (Node × Node) → List Node
  | [] => []
  | (key, value) :: rest => nodes key ++ nodes value ++ nodesOfEntries rest

end

/-- Whether a node is a sequence or mapping. -/
def isCollection : Node → Bool
  | sequence .. => true
  | mapping .. => true
  | _ => false

/-- The number of marks of a tree: a sequence or mapping has a start and an end, another node is one
mark. -/
def size (node : Node) : Nat :=
  (node.nodes.map fun inner => if inner.isCollection then 2 else 1).foldr (· + ·) 0

end Node

/-- A document. -/
structure Document where
  /-- The tree; a text without any document has none. -/
  root : Option Node
  deriving Repr

namespace Document

/-- The nodes of a document. -/
def nodes (document : Document) : List Node :=
  match document.root with
  | none => []
  | some root => root.nodes

/-- The node that a reference stands for. -/
def follow? (document : Document) (number : Nat) : Option Node :=
  document.nodes.reverse.find? (·.anchor? = some number)

/-- The number of marks of a document. -/
def size (document : Document) : Nat :=
  match document.root with
  | none => 1
  | some root => root.size

end Document

end Hypermedia.Yaml
