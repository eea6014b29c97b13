import Hypermedia.Yaml.Node
import Hypermedia.Yaml.Token

/-!
# Reading YAML documents

The grammar of tokens. A text holds at most one document here.

* `Document.ofTokens?` reads the document that tokens write.
* `Document.parse?` reads a text.
-/

namespace Hypermedia.Yaml

/-- What is known while a document is read. -/
structure Progress where
  /-- The tokens that are left. -/
  tokens : List Token
  /-- What the handles of tags stand for. -/
  handles : List (String × String)
  /-- The anchors by name, with their numbers. -/
  anchors : List (String × Nat)

/-- Reading that may fail. -/
abbrev Reading := StateT Progress Option

namespace Reading

/-! ## Tokens -/

/-- The next token. -/
def next? : Reading (Option Token) := do
  pure (← get).tokens.head?

/-- Passes a token. -/
def skip : Reading Unit :=
  modify fun progress => { progress with tokens := progress.tokens.drop 1 }

/-- Passes a token if it is the given one. -/
def accept (token : Token) : Reading Bool := do
  if (← next?) = some token then do
    skip
    pure true
  else pure false

/-- Passes the given token, which has to be the next. -/
def expect (token : Token) : Reading Unit := do
  if !(← accept token) then failure

/-- Whether the next token is among the given ones. -/
def isAt (tokens : List Token) : Reading Bool := do
  pure ((← next?).any (tokens.contains ·))

/-! ## Properties of nodes -/

/-- The anchor and the tag of a node. -/
structure Properties where
  /-- The number of the anchor. -/
  anchor : Option Nat
  /-- The full tag. -/
  tag : Option String

/-- Gives a number to an anchor. -/
def number (name : String) : Reading Nat := do
  let progress ← get
  let number := progress.anchors.length
  let others := progress.anchors.filter (·.1 ≠ name)
  set { progress with anchors := (name, number) :: others }
  pure number

/-- The full tag of a handle and a suffix. -/
def fullTag (handle suffix : String) : Reading String := do
  if handle.isEmpty then pure suffix
  else
    match (← get).handles.lookup handle with
    | some start => pure (start ++ suffix)
    | none => failure

/-- Reads an anchor, if one follows. -/
def anchorName? : Reading (Option String) := do
  match ← next? with
  | some (.anchor name) => do
    skip
    pure (some name)
  | _ => pure none

/-- Reads a tag, if one follows. -/
def tag? : Reading (Option String) := do
  match ← next? with
  | some (.tag handle suffix) => do
    skip
    pure (some (← fullTag handle suffix))
  | _ => pure none

/-- Reads an anchor and a tag, in either order. -/
def properties : Reading Properties := do
  let before ← anchorName?
  let tag ← tag?
  let name ← if before.isNone && tag.isSome then anchorName? else pure before
  let anchor ← name.mapM number
  pure ⟨anchor, tag⟩

/-! ## Nodes -/

/-- What cannot begin a part of a mapping by indentation. -/
def mappingMarks : List Token :=
  [.key, .value, .blockEnd]

/-- What cannot begin an element of a sequence by indentation. -/
def sequenceMarks (indented : Bool) : List Token :=
  if indented then [.blockEntry, .blockEnd] else .blockEntry :: mappingMarks

/-- Reads a node unless one of some tokens follows; then nothing is written there. -/
def unlessAt (marks : List Token) (node : Reading Node) : Reading Node := do
  if ← isAt marks then pure Node.empty else node

/-- Reads a scalar with its properties. The tag of one exclamation mark says nothing on a scalar. -/
def scalar (properties : Properties) (text : String) (plain : Bool) : Node :=
  let tag := if properties.tag = some "!" then none else properties.tag
  .scalar properties.anchor tag text plain

/-- Reads nothing, which is a node if it has an anchor or a tag. -/
def without (found : Properties) : Reading Node :=
  if found.anchor.isSome || found.tag.isSome then
    pure (.scalar found.anchor found.tag "" true)
  else failure

mutual

/-- Reads a node. Outside of brackets it may be a collection by indentation; as a part of a mapping
it may also be a sequence that is not indented. The first argument bounds the number of steps. -/
def node : Nat → Bool → Bool → Reading Node
  | 0, _, _ => failure
  | fuel + 1, inBlock, inMapping => do
    match ← next? with
    | some (.reference name) => do
      skip
      match (← get).anchors.lookup name with
      | some number => pure (.reference number)
      | none => failure
    | _ => do
      let found ← properties
      match ← next? with
      | some (.scalar text plain) => do
        skip
        pure (scalar found text plain)
      | some .flowSequenceStart => do
        skip
        pure (.sequence found.anchor found.tag (← flowElements fuel true))
      | some .flowMappingStart => do
        skip
        pure (.mapping found.anchor found.tag (← flowEntries fuel true))
      | some .blockSequenceStart =>
        if inBlock then do
          skip
          pure (.sequence found.anchor found.tag (← blockElements fuel true))
        else without found
      | some .blockMappingStart =>
        if inBlock then do
          skip
          pure (.mapping found.anchor found.tag (← blockEntries fuel))
        else without found
      | some .blockEntry =>
        if inMapping then do
          pure (.sequence found.anchor found.tag (← blockElements fuel false))
        else without found
      | _ => without found

/-- Reads the elements of a sequence by hyphens. -/
def blockElements : Nat → Bool → Reading (List Node)
  | 0, _ => failure
  | fuel + 1, indented => do
    if ← accept .blockEntry then do
      let element ← unlessAt (sequenceMarks indented) (node fuel true false)
      pure (element :: (← blockElements fuel indented))
    else do
      if indented then expect .blockEnd
      pure []

/-- Reads the entries of a mapping by indentation. -/
def blockEntries : Nat → Reading (List (Node × Node))
  | 0 => failure
  | fuel + 1 => do
    if ← accept .key then do
      let key ← unlessAt mappingMarks (node fuel true true)
      let value ← blockValue fuel
      pure ((key, value) :: (← blockEntries fuel))
    else do
      expect .blockEnd
      pure []

/-- Reads the value of a mapping by indentation, if one follows. -/
def blockValue : Nat → Reading Node
  | 0 => failure
  | fuel + 1 => do
    if ← accept .value then unlessAt mappingMarks (node fuel true true) else pure Node.empty

/-- Reads the elements of a sequence in brackets. -/
def flowElements : Nat → Bool → Reading (List Node)
  | 0, _ => failure
  | fuel + 1, isFirst => do
    if ← accept .flowSequenceEnd then pure []
    else do
      if !isFirst then expect .flowEntry
      if ← accept .key then do
        let pair ← flowPair fuel
        pure (.mapping none none [pair] :: (← flowElements fuel false))
      else if ← accept .flowSequenceEnd then pure []
      else do
        let element ← node fuel false false
        pure (element :: (← flowElements fuel false))

/-- Reads a key and its value in a sequence in brackets. After a key that is not written one token
has no meaning. -/
def flowPair : Nat → Reading (Node × Node)
  | 0 => failure
  | fuel + 1 => do
    let ends : List Token := [.flowEntry, .flowSequenceEnd]
    let key ←
      if ← isAt (.value :: ends) then do
        skip
        pure Node.empty
      else node fuel false false
    if ← accept .value then pure (key, ← unlessAt ends (node fuel false false))
    else pure (key, Node.empty)

/-- Reads the entries of a mapping in braces. -/
def flowEntries : Nat → Bool → Reading (List (Node × Node))
  | 0, _ => failure
  | fuel + 1, isFirst => do
    let ends : List Token := [.flowEntry, .flowMappingEnd]
    if ← accept .flowMappingEnd then pure []
    else do
      if !isFirst then expect .flowEntry
      if ← accept .key then do
        let key ← unlessAt (.value :: ends) (node fuel false false)
        let value ←
          if ← accept .value then unlessAt ends (node fuel false false) else pure Node.empty
        pure ((key, value) :: (← flowEntries fuel false))
      else if ← accept .flowMappingEnd then pure []
      else do
        let key ← node fuel false false
        pure ((key, Node.empty) :: (← flowEntries fuel false))

end

/-! ## Documents -/

/-- The handles that every document knows. -/
def commonHandles : List (String × String) :=
  [("!", "!"), ("!!", "tag:yaml.org,2002:")]

/-- Passes the directives of a document; the arguments are its version and its handles so far. -/
def directives? : Bool → List (String × String) → List Token →
    Option (List (String × String) × List Token)
  | hasVersion, handles, .versionDirective major minor :: rest =>
    if hasVersion || major ≠ 1 || (minor ≠ 1 && minor ≠ 2) then none
    else directives? true handles rest
  | hasVersion, handles, .tagDirective handle start :: rest =>
    if (handles.lookup handle).isSome then none
    else directives? hasVersion (handles ++ [(handle, start)]) rest
  | _, handles, rest => some (handles, rest)

/-- What ends a document without content. -/
def isOutside : Token → Bool
  | .versionDirective .. => true
  | .tagDirective .. => true
  | .documentStart => true
  | .documentEnd => true
  | _ => false

/-- Reads the content of a document. -/
def content (fuel : Nat) (explicit : Bool) : Reading Node := do
  if explicit && (← next?).all isOutside then pure Node.empty else node fuel true false

/-- Reads a document up to the end of all tokens. -/
def document (explicit : Bool) : Reading Document := do
  let fuel := 3 * (← get).tokens.length + 3
  let root ← content fuel explicit
  if (← get).tokens.all (· = .documentEnd) then pure ⟨some root⟩ else failure

end Reading

namespace Document

/-- Reads the document that tokens write. -/
def ofTokens? (tokens : List Token) : Option Document := do
  if tokens.isEmpty then some ⟨none⟩
  else
    let (handles, rest) ← Reading.directives? false [] tokens
    let handles := handles ++ Reading.commonHandles
    let explicit := tokens.head?.any fun token => Reading.isOutside token && token ≠ .documentEnd
    let rest ←
      if explicit then
        match rest with
        | .documentStart :: rest => some rest
        | _ => none
      else some rest
    (Reading.document explicit).run' ⟨rest, handles, []⟩

/-- Reads a text. -/
def parse? (text : List Char) : Option Document := do
  ofTokens? (← Token.ofText? text)

end Document

end Hypermedia.Yaml
