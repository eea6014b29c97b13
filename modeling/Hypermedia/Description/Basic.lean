import Hypermedia.Relation

/-!
# Descriptions of APIs

The part of an OpenAPI description that links its operations: paths, their operations, and the links
in the responses of an operation.

* `Description.routeOf?` finds the path template that serves a request target: among the templates
  that match, the one with the fewest parameters.
* `Description.relationOf?` follows the link whose parameter is the value at a selector: the value
  is put into the template of the target operation.
* `Description.lookup` is the route lookup made of both.
-/

namespace Hypermedia

/-! ## Tables -/

/-- A table with names in increasing order. -/
abbrev Table (α : Type) := List (String × α)

namespace Table

variable {α : Type}

/-- Sets the value of a name. -/
def insert (name : String) (value : α) : Table α → Table α
  | [] => [(name, value)]
  | (other, old) :: rest =>
    if name = other then (other, value) :: rest
    else if name < other then (name, value) :: (other, old) :: rest
    else (other, old) :: insert name value rest

/-- The value of a name. -/
def get? (table : Table α) (name : String) : Option α :=
  table.lookup name

end Table

/-! ## Descriptions -/

namespace Description

/-- A link from the response of an operation to another operation. -/
structure Link where
  /-- The operation that the link leads to. -/
  operationId : Option String
  /-- The parameters of that operation, each with the text of its expression; there is none if the
  expression is no text. -/
  parameters : Table (Option String)
  deriving Repr

/-- An operation. -/
structure Operation where
  /-- The name of the operation. -/
  operationId : Option String
  /-- The links in each response of the operation. -/
  responses : Table (Table Link)
  deriving Repr

/-- The operations of a path. -/
structure PathItem where
  /-- The operation that reads the resource. -/
  get : Option Operation
  /-- The other operations. -/
  others : List Operation
  deriving Repr

/-- Every operation of a path. -/
def PathItem.operations (item : PathItem) : List Operation :=
  item.get.toList ++ item.others

end Description

/-- The description of an API. -/
structure Description where
  /-- The operations of each path template. -/
  paths : Table Description.PathItem
  deriving Repr

namespace Description

/-! ## Templates -/

/-- Whether a segment of a template is a parameter. -/
def isParameter (segment : List Char) : Bool :=
  segment.head? = some '\x7b' && segment.getLast? = some '\x7d'

/-- The number of parameters, if the segments of a template match those of a path. A parameter
matches every segment but the empty one. -/
def matchSegments? : List (List Char) → List (List Char) → Option Nat
  | [], [] => some 0
  | t :: template, p :: path =>
    if isParameter t then
      if p.isEmpty then none else (matchSegments? template path).map (· + 1)
    else if t = p then matchSegments? template path
    else none
  | _, _ => none

/-- The number of parameters, if a template matches a path. -/
def matchTemplate? (template path : String) : Option Nat :=
  matchSegments? (Text.splitOn '/' template.toList) (Text.splitOn '/' path.toList)

/-- The first pair with the least number. -/
def leastFirst {α : Type} : List (Nat × α) → Option (Nat × α)
  | [] => none
  | (n, a) :: rest =>
    match leastFirst rest with
    | none => some (n, a)
    | some (m, b) => if m < n then some (m, b) else some (n, a)

/-- The templates with a `get` operation that match a path, with their numbers of parameters. -/
def matches? (description : Description) (path : String) : List (Nat × String) :=
  description.paths.filterMap fun (template, item) =>
    if item.get.isSome then (matchTemplate? template path).map fun n => (n, template) else none

/-- The template that serves a request target. -/
def routeOf? (description : Description) (uri : Uri) : Option String :=
  (leastFirst (matches? description uri.path)).map (·.2)

/-! ## Links -/

/-- The first template with an operation of a name. -/
def templateOf? (description : Description) (operationId : String) : Option String :=
  (description.paths.find? fun (_, item) =>
    item.operations.any (·.operationId = some operationId)).map (·.1)

/-- The first parameter of a link that is given by an expression. -/
def Link.parameterFor? (link : Link) (expression : String) : Option String :=
  (link.parameters.find? fun (_, value) => value = some expression).map (·.1)

/-- The expression for the value at a selector. -/
def expressionOf (selector : String) : String :=
  "$response.body#" ++ selector

/-- A template with a value in place of a parameter, if no other parameter is left in it. -/
def fill? (template parameter raw : String) : Option String :=
  let filled := Text.replaceAll ('\x7b' :: parameter.toList ++ ['\x7d']) raw.toList template.toList
  if filled.contains '\x7b' then none else some (.ofList filled)

/-- The relation that a link makes of the value at a selector. -/
def Link.relation? (description : Description) (selector raw : String) (link : Link) :
    Option String := do
  let parameter ← link.parameterFor? (expressionOf selector)
  let operationId ← link.operationId
  let template ← templateOf? description operationId
  fill? template parameter raw

/-- The relation that the links of a route make of the value at a selector. -/
def relationOf? (description : Description) (route selector raw : String) : Option String := do
  let item ← description.paths.get? route
  let operation ← item.get
  (operation.responses.flatMap fun response => response.2.map (·.2)).findSome?
    (Link.relation? description selector raw)

/-- The description as a route lookup. -/
def lookup (description : Description) : RouteLookup :=
  ⟨routeOf? description, relationOf? description⟩

end Description

end Hypermedia
