import Hypermedia.Description.Basic

/-!
# Reading descriptions

What a written value has to be like to be a description, whatever it is written in.

* `Shape` lists what a way of writing has to offer: records, tables, values that may be missing,
  texts, and values of any kind.
* `Shape.description` reads a description.
-/

namespace Hypermedia.Description

/-- How values are read, where `ν` is the type of written values and `m` keeps track of failures. -/
structure Shape (ν : Type) (m : Type → Type) where
  /-- The members of a record with the given names. As many of the first ones as given must be there
  if the record is written as a list. -/
  record : List String → Nat → ν → m (List (Option ν))
  /-- The entries of a table, in the order they are written. -/
  table : ν → m (List (String × ν))
  /-- A value that may be null. -/
  optional : ν → m (Option ν)
  /-- A text. -/
  text : ν → m String
  /-- A value of any kind: its text if it is one. -/
  value : ν → m (Option String)

namespace Shape

variable {ν : Type} {m : Type → Type} [Monad m] {α : Type}

/-- Reads a table whose values are read by `read`; the last value of a name counts. -/
def tableOf (shape : Shape ν m) (read : ν → m α) (written : ν) : m (Table α) := do
  let entries ← shape.table written
  entries.foldlM (fun table (name, value) => do
    let value ← read value
    pure (table.insert name value)) []

/-- Reads a member that may be missing or null. -/
def optionOf (shape : Shape ν m) (read : ν → m α) : Option ν → m (Option α)
  | none => pure none
  | some written => do
    match ← shape.optional written with
    | none => pure none
    | some written => do
      let value ← read written
      pure (some value)

/-- Reads a table that is empty if it is missing. -/
def tableOrEmpty (shape : Shape ν m) (read : ν → m α) : Option ν → m (Table α)
  | none => pure []
  | some written => shape.tableOf read written

/-- The member at a place of a record. -/
def member (members : List (Option ν)) (i : Nat) : Option ν :=
  (members[i]?).join

/-- Reads a link. -/
def link (shape : Shape ν m) (written : ν) : m Link := do
  let members ← shape.record ["operationId", "parameters"] 1 written
  let operationId ← shape.optionOf shape.text (member members 0)
  let parameters ← shape.tableOrEmpty shape.value (member members 1)
  pure ⟨operationId, parameters⟩

/-- Reads the links of a response. -/
def response (shape : Shape ν m) (written : ν) : m (Table Link) := do
  let members ← shape.record ["links"] 0 written
  shape.tableOrEmpty shape.link (member members 0)

/-- Reads an operation. -/
def operation (shape : Shape ν m) (written : ν) : m Operation := do
  let members ← shape.record ["operationId", "responses"] 1 written
  let operationId ← shape.optionOf shape.text (member members 0)
  let responses ← shape.tableOrEmpty shape.response (member members 1)
  pure ⟨operationId, responses⟩

/-- The names of the operations of a path. -/
def methods : List String :=
  ["get", "put", "post", "delete", "options", "head", "patch", "trace"]

/-- Reads the operations of a path. -/
def pathItem (shape : Shape ν m) (written : ν) : m PathItem := do
  let members ← shape.record methods methods.length written
  let operations ← members.mapM (shape.optionOf shape.operation)
  pure ⟨operations.head?.join, (operations.drop 1).filterMap id⟩

/-- Reads a description. -/
def description (shape : Shape ν m) (written : ν) : m Description := do
  let members ← shape.record ["paths"] 0 written
  let paths ← shape.tableOrEmpty shape.pathItem (member members 0)
  pure ⟨paths⟩

end Shape

/-- Puts the members of the given names in order; other members are ignored, and a name must not be
repeated. -/
def arrange? {ν : Type} (names : List String) (members : List (String × ν)) :
    Option (List (Option ν)) :=
  names.mapM fun name =>
    match members.filter (·.1 = name) with
    | [] => some none
    | [(_, value)] => some (some value)
    | _ => none

end Hypermedia.Description
