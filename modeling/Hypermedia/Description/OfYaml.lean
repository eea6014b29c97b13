import Hypermedia.Description.OfJson
import Hypermedia.Yaml.Parser
import Hypermedia.Yaml.Plain

/-!
# Descriptions in YAML

How records and tables of a description are written in YAML, and the choice between YAML and JSON.

* Records and tables are mappings; nothing written plainly is an empty one. Every scalar is a text.
* References may be followed only so often that a small text cannot stand for a huge description.
* `Description.parse` reads a description in either format.
-/

namespace Hypermedia.Description

open Yaml (Document Plain)

/-- Reading with a number of references that may still be followed. -/
abbrev Following := StateT Nat Option

/-- The number of references that may be followed for each mark of a document. -/
def referencesPerMark : Nat := 100

/-- The node that a node stands for. -/
def resolve (document : Document) : Yaml.Node → Following Yaml.Node
  | .reference number => do
    match ← get with
    | 0 => failure
    | left + 1 => do
      set left
      match document.follow? number with
      | some node => pure node
      | none => failure
  | node => pure node

/-- Reads a text. -/
def yamlText (document : Document) (node : Yaml.Node) : Following String := do
  match ← resolve document node with
  | .scalar _ _ text _ => pure text
  | _ => failure

/-- Reads the entries of a table. -/
def yamlTable (document : Document) (node : Yaml.Node) : Following (List (String × Yaml.Node)) := do
  match ← resolve document node with
  | .mapping _ _ entries =>
    entries.mapM fun (key, value) => do
      let name ← yamlText document key
      pure (name, value)
  | .scalar _ _ "" true => pure []
  | _ => failure

/-- Reads the members of a record. -/
def yamlRecord (document : Document) (names : List String) (node : Yaml.Node) :
    Following (List (Option Yaml.Node)) := do
  let entries ← yamlTable document node
  match arrange? names entries with
  | some members => pure members
  | none => failure

/-- Reads a node that may be null. -/
def yamlOptional (document : Document) (node : Yaml.Node) : Following (Option Yaml.Node) := do
  match ← resolve document node with
  | .scalar anchor tag text true =>
    let isNull := Plain.isNull text
    match tag with
    | some "tag:yaml.org,2002:null" => if isNull then pure none else failure
    | some _ => pure (some (.scalar anchor tag text true))
    | none => pure (if text.isEmpty || isNull then none else some (.scalar anchor tag text true))
  | node => pure (some node)

/-- Whether a tag belongs to the text only, so that nothing is known about its values. -/
def isLocalTag (tag : Option String) : Bool :=
  tag.any fun tag => tag.toList.head? = some '!'

/-- The text of a scalar of any kind, if it stands for one. Integers have at most 64 bits. -/
def yamlScalar (tag : Option String) (text : String) (plain : Bool) : Option (Option String) := do
  let value ← match tag with
    | some tag => Plain.ofTagged? tag text
    | none => some (if plain then Plain.ofText text else .text text)
  match value with
  | .text text => some (some text)
  | .integer n => if -Int.pow 2 63 ≤ n && n < Int.pow 2 64 then some none else none
  | _ => some none

/-- Reads a value of any kind, in which collections are nested at most so deep: its text if it is
one. -/
def yamlValue (document : Document) (depth : Nat) (node : Yaml.Node) :
    Following (Option String) := do
  match ← resolve document node with
  | .scalar _ tag text plain =>
    if isLocalTag tag then failure
    else
      match yamlScalar tag text plain with
      | some found => pure found
      | none => failure
  | .sequence _ tag elements =>
    match depth with
    | 0 => failure
    | depth + 1 => do
      if isLocalTag tag then failure
      elements.forM fun element => discard (yamlValue document depth element)
      pure none
  | .mapping _ tag entries =>
    match depth with
    | 0 => failure
    | depth + 1 => do
      if isLocalTag tag then failure
      entries.forM fun (key, value) => do
        discard (yamlText document key)
        discard (yamlValue document depth value)
      pure none
  | .reference _ => failure

/-- How deep the value of a parameter may be nested: it stands below nine other mappings. -/
def yamlParameterDepth : Nat := 128 - 9

/-- How descriptions are written in a YAML document. -/
def yamlShape (document : Document) : Shape Yaml.Node Following where
  record names _ := yamlRecord document names
  table := yamlTable document
  optional := yamlOptional document
  text := yamlText document
  value := yamlValue document yamlParameterDepth

/-- Reads a description from a YAML text. A text without any document is an empty description. -/
def ofYaml? (text : List Char) : Option Description := do
  let document ← Document.parse? text
  match document.root with
  | none => some ⟨[]⟩
  | some root =>
    ((yamlShape document).description root).run' (document.size * referencesPerMark)

/-! ## Both formats -/

/-- A description that cannot be read. -/
inductive ReadError where
  /-- The text is taken for JSON. -/
  | json
  /-- The text is taken for YAML. -/
  | yaml
  deriving DecidableEq, Repr

/-- The characters that may stand before the first brace of a JSON text. -/
def isLeadingBlank (c : Char) : Bool :=
  c = ' ' || c = '\t' || c = '\n' || c = '\x0c' || c = '\r'

/-- Whether a text is taken for JSON: its first character after blanks is an opening brace. -/
def looksLikeJson (text : List Char) : Bool :=
  (text.dropWhile isLeadingBlank).head? = some '\x7b'

/-- Reads a description in the format it looks like. -/
def parse (text : String) : Except ReadError Description :=
  if looksLikeJson text.toList then
    match ofJson? text.toList with
    | some description => .ok description
    | none => .error .json
  else
    match ofYaml? text.toList with
    | some description => .ok description
    | none => .error .yaml

end Hypermedia.Description
