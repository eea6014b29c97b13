import Hypermedia.Text.Utf8

/-!
# Header fields

The header fields of a message: an ordered list of names and values. Names compare without
regard to letter case and are kept in lower case; a name may occur several times, and its values
keep their order.

* `Headers.append` adds a value, `Headers.insert` replaces all values of a name,
  `Headers.remove` drops them.
* `readable?` is the text of a value that consists of printable ASCII and tabs; a value with any
  other byte has no text.
-/

namespace Hypermedia

/-- The characters of a field name: letters, digits and the marks that a token may hold. -/
def isTokenChar (c : Char) : Bool :=
  c.isAlphanum || "!#$%&'*+-.^_`|~".toList.contains c

/-- A valid field name, in lower case. -/
def fieldName? (text : String) : Option String :=
  if !text.isEmpty && text.toList.all isTokenChar && text.toList.length ≤ 65535 then
    some text.toLower
  else none

/-- Whether a byte may occur in a field value: no control character but the tab. -/
def isFieldByte (b : UInt8) : Bool :=
  b = 0x09 || (0x20 ≤ b && b ≠ 0x7F)

/-- The bytes, if they form a valid field value. -/
def fieldValue? (bytes : Bytes) : Option Bytes :=
  if bytes.all isFieldByte then some bytes else none

/-- Whether a byte is a tab or printable ASCII. -/
def isReadableByte (b : UInt8) : Bool :=
  b = 0x09 || (0x20 ≤ b && b ≤ 0x7E)

/-- The text of a value that holds nothing but tabs and printable ASCII. -/
def readable? (value : Bytes) : Option String :=
  if value.all isReadableByte then some (.ofList (value.map fun b => Char.ofNat b.toNat)) else none

/-- The header fields of a message, in order; names are in lower case. -/
structure Headers where
  /-- Name and value of each field. -/
  fields : List (String × Bytes)
  deriving DecidableEq, Repr

namespace Headers

/-- No fields. -/
def empty : Headers := ⟨[]⟩

instance : Inhabited Headers := ⟨empty⟩

/-- Every value of a name, in order. -/
def getAll (headers : Headers) (name : String) : List Bytes :=
  (headers.fields.filter (·.1 = name)).map (·.2)

/-- The first value of a name. -/
def get? (headers : Headers) (name : String) : Option Bytes :=
  (headers.getAll name).head?

/-- Whether the name has a value. -/
def contains (headers : Headers) (name : String) : Bool :=
  !(headers.getAll name).isEmpty

/-- Adds a value after the others. -/
def append (headers : Headers) (name : String) (value : Bytes) : Headers :=
  ⟨headers.fields ++ [(name, value)]⟩

/-- Adds several values of one name. -/
def appendAll (headers : Headers) (name : String) (values : List Bytes) : Headers :=
  values.foldl (fun headers value => headers.append name value) headers

/-- Drops every value of a name. -/
def remove (headers : Headers) (name : String) : Headers :=
  ⟨headers.fields.filter (·.1 ≠ name)⟩

/-- Makes `value` the only value of a name. -/
def insert (headers : Headers) (name : String) (value : Bytes) : Headers :=
  (headers.remove name).append name value

/-- The fields sorted by name; values of one name keep their order. -/
def sorted (headers : Headers) : List (String × Bytes) :=
  headers.fields.mergeSort fun a b => a.1 ≤ b.1

end Headers

end Hypermedia
