import Hypermedia.Toml.Number
import Hypermedia.Toml.Text

/-!
# Reading TOML documents

* `value?` reads a value.
* `parse?` reads a document, which is a table.
-/

namespace Hypermedia.Toml

/-! ## Between values -/

/-- Passes blanks, line ends and comments; says first whether a comment has begun. -/
def skipLayout? (inComment : Bool) : List Char → Option (List Char)
  | [] => if inComment then none else some []
  | '\n' :: rest => skipLayout? false rest
  | '\r' :: '\n' :: rest => skipLayout? false rest
  | c :: rest =>
    if inComment then if isTextChar c then skipLayout? true rest else none
    else if isBlank c then skipLayout? false rest
    else if c = '#' then skipLayout? true rest
    else some (c :: rest)

/-- Passes blanks and a comment, up to the end of the line or of the text. -/
def endLine? (s : List Char) : Option (List Char) :=
  let s := skipBlanks s
  let s := if s.head? = some '#' then s.dropWhile isTextChar else s
  if s.isEmpty then some [] else lineEnd? s

/-! ## Values -/

/-- Reads a fixed word. -/
def word? (word : String) (value : Value) (s : List Char) : Option (Value × List Char) :=
  if word.toList.isPrefixOf s then some (value, s.drop word.length) else none

/-- Reads a value that holds no others. -/
def simple? (s : List Char) : Option (Value × List Char) :=
  match s with
  | '"' :: _ => (string? s).map fun (text, rest) => (.string text, rest)
  | '\'' :: _ => (string? s).map fun (text, rest) => (.string text, rest)
  | 't' :: _ => word? "true" (.bool true) s
  | 'f' :: _ => word? "false" (.bool false) s
  | s => number? s

mutual

/-- Reads a value. The first argument bounds the number of steps, the second one the depth. -/
def value? : Nat → Nat → List Char → Option (Value × List Char)
  | 0, _, _ => none
  | fuel + 1, depth, s =>
    match s with
    | '[' :: rest =>
      if depth = 0 then none
      else (elements? fuel (depth - 1) rest).map fun (found, rest) => (.array found, rest)
    | '\x7b' :: rest =>
      if depth = 0 then none
      else
        match skipBlanks rest with
        | '\x7d' :: rest => some (.table .inline [], rest)
        | rest =>
          (entries? fuel (depth - 1) [] rest).map fun (found, rest) =>
            (.table .inline found, rest)
    | s => simple? s

/-- Reads the elements of a list up to its bracket. -/
def elements? : Nat → Nat → List Char → Option (List Value × List Char)
  | 0, _, _ => none
  | fuel + 1, depth, s => do
    match ← skipLayout? false s with
    | ']' :: rest => some ([], rest)
    | s =>
      let (found, rest) ← value? fuel depth s
      match ← skipLayout? false rest with
      | ',' :: rest => (elements? fuel depth rest).map fun (more, rest) => (found :: more, rest)
      | ']' :: rest => some ([found], rest)
      | _ => none

/-- Reads the entries of a table up to its brace, and adds them to those before. -/
def entries? : Nat → Nat → Table → List Char → Option (Table × List Char)
  | 0, _, _, _ => none
  | fuel + 1, depth, table, s => do
    let (path, key, rest) ← key? s
    let (value, rest) ← value? fuel depth (skipBlanks (← mark? '=' rest))
    let table ← table.insertAt? path key value
    match skipBlanks rest with
    | ',' :: rest => entries? fuel depth table rest
    | '\x7d' :: rest => some (table, rest)
    | _ => none

end

/-! ## Documents -/

/-- An entry of a document: its key and its value. -/
structure Entry where
  /-- The parts of the key before the last one. -/
  path : List String
  /-- The last part of the key. -/
  key : String
  /-- The value. -/
  value : Value

/-- A header: its key, and whether it starts an element of a list of tables. -/
structure Header where
  /-- The parts of the key before the last one. -/
  path : List String
  /-- The last part of the key. -/
  key : String
  /-- Whether the key names a list of tables. -/
  isList : Bool

/-- A line of a document that says something. -/
inductive Line where
  /-- An entry. -/
  | entry (entry : Entry)
  /-- A header. -/
  | header (header : Header)

/-- Reads a header after its first bracket. -/
def header? (s : List Char) : Option (Header × List Char) := do
  match s with
  | '[' :: rest =>
    let (path, key, rest) ← key? rest
    let rest ← mark? ']' (← mark? ']' rest)
    pure (⟨path, key, true⟩, rest)
  | s =>
    let (path, key, rest) ← key? s
    pure (⟨path, key, false⟩, ← mark? ']' rest)

/-- Reads an entry. -/
def entry? (s : List Char) : Option (Entry × List Char) := do
  let (path, key, rest) ← key? s
  let s := skipBlanks (← mark? '=' rest)
  let (value, rest) ← value? (s.length + 1) maxDepth s
  pure (⟨path, key, value⟩, rest)

/-- Reads the lines of a document. The first argument bounds their number. -/
def lines? : Nat → List Char → Option (List Line)
  | 0, _ => none
  | fuel + 1, s =>
    match skipBlanks s with
    | [] => some []
    | '[' :: rest => do
      let (header, rest) ← header? rest
      let lines ← lines? fuel (← endLine? rest)
      pure (.header header :: lines)
    | s =>
      match endLine? s with
      | some rest => lines? fuel rest
      | none => do
        let (entry, rest) ← entry? s
        let lines ← lines? fuel (← endLine? rest)
        pure (.entry entry :: lines)

/-- Adds entries to a table. -/
def fill? (entries : List Entry) (table : Table) : Option Table :=
  entries.foldlM (fun table entry => table.insertAt? entry.path entry.key entry.value) table

/-- The entries before the next header. -/
def leadingEntries : List Line → List Entry
  | .entry entry :: rest => entry :: leadingEntries rest
  | _ => []

/-- Adds the tables of all headers. -/
def sections? (table : Table) : List Line → Option Table
  | [] => some table
  | .entry _ :: rest => sections? table rest
  | .header header :: rest => do
    let fill := fill? (leadingEntries rest)
    let table ← table.insertSection? header.path header.key header.isList fill
    sections? table rest

/-- Reads a document. -/
def parse? (text : List Char) : Option Table := do
  let text := match text with
    | '\uFEFF' :: rest => rest
    | text => text
  let lines ← lines? (text.length + 1) text
  let root ← fill? (leadingEntries lines) []
  sections? root lines

end Hypermedia.Toml
