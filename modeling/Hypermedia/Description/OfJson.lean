import Hypermedia.Description.Shape
import Hypermedia.Json.Parser

/-!
# Descriptions in JSON

How records and tables of a description are written in JSON. A record is an object, or a list of
its members in order. What is not part of the description only has to be well formed.
-/

namespace Hypermedia.Description

open Json (Literal)

/-- How deep the value of a parameter may be nested: it stands below nine other objects. -/
def parameterDepth : Nat :=
  Json.maxDepth - 9

/-- The members of a record. -/
def jsonRecord? (names : List String) (needed : Nat) : Literal → Option (List (Option Literal))
  | .object members => do
    let named ← members.mapM fun (name, value) => name.map fun name => (name, value)
    arrange? names named
  | .array elements =>
    if needed ≤ elements.length && elements.length ≤ names.length then
      some (elements.map some ++ List.replicate (names.length - elements.length) none)
    else none
  | _ => none

/-- The entries of a table. -/
def jsonTable? : Literal → Option (List (String × Literal))
  | .object members => members.mapM fun (name, value) => name.map fun name => (name, value)
  | _ => none

/-- How descriptions are written in JSON. -/
def jsonShape : Shape Literal Option where
  record := jsonRecord?
  table := jsonTable?
  optional
    | .null => some none
    | value => some (some value)
  text
    | .string text => text
    | _ => none
  value literal := (Json.ofLiteral? parameterDepth literal).map (·.asString?)

/-- Reads a description from a JSON text. -/
def ofJson? (text : List Char) : Option Description := do
  jsonShape.description (← Literal.parse? text)

end Hypermedia.Description
