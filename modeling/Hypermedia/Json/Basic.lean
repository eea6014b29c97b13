import Hypermedia.Decimal.Shortest

/-!
# JSON documents

* `Json.Number` is an exact integer of at most 64 bits or a double.
* `Json` is a document; the members of an object keep their order.
* `Json.put` sets a member: a name that is there already keeps its place and gets the new value.
-/

namespace Hypermedia

/-- A JSON number. -/
inductive Json.Number where
  /-- An integer between `-2^63` and `2^64 - 1`. -/
  | integer (n : Int)
  /-- Any other number, rounded to a double. -/
  | double (d : Binary64)
  deriving DecidableEq, Repr, Inhabited

/-- A JSON document. -/
inductive Json where
  /-- The null value. -/
  | null
  /-- A truth value. -/
  | bool (b : Bool)
  /-- A number. -/
  | number (n : Json.Number)
  /-- A text. -/
  | string (s : String)
  /-- A list of elements. -/
  | array (elements : List Json)
  /-- An object with its members in order. -/
  | object (members : List (String × Json))
  deriving Repr, Inhabited

namespace Json

/-- Sets a member; the last value of a name counts, at the place of its first one. -/
def put (members : List (String × Json)) (name : String) (value : Json) :
    List (String × Json) :=
  match members with
  | [] => [(name, value)]
  | (other, old) :: rest =>
    if other = name then (other, value) :: rest else (other, old) :: put rest name value

/-- The text of a document that is a string. -/
def asString? : Json → Option String
  | string s => some s
  | _ => none

end Json

end Hypermedia
