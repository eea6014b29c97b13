/-!
# TOML values

The values of a TOML document, and how tables grow while a document is read.

* `Value` is a value; a table knows how it was made, since that decides who may add to it.
* `Table.insertAt?` adds a value under a dotted key, `Table.insertSection?` the table or the
  element of a list of tables under a header.
-/

namespace Hypermedia.Toml

/-- How a table was made. -/
inductive Origin where
  /-- By a header of its own. -/
  | header
  /-- By the header of a table inside of it. -/
  | outer
  /-- By a dotted key. -/
  | dotted
  /-- Between braces. -/
  | inline
  deriving DecidableEq, Repr

/-- A value. -/
inductive Value where
  /-- A text. -/
  | string (text : String)
  /-- An integer. -/
  | integer (n : Int)
  /-- A number with a point or an exponent. -/
  | real
  /-- A truth value. -/
  | bool (b : Bool)
  /-- A date, a time or both. -/
  | moment
  /-- A list of values. -/
  | array (elements : List Value)
  /-- A table. -/
  | table (origin : Origin) (entries : List (String × Value))
  /-- A list of tables by headers, the last one first. -/
  | tables (elements : List (List (String × Value)))
  deriving Repr, Inhabited

/-- The entries of a table, in order. -/
abbrev Table := List (String × Value)

namespace Table

/-- The value of a key. -/
def get? (table : Table) (key : String) : Option Value :=
  table.lookup key

/-- Sets the value of a key. -/
def set (key : String) (value : Value) : Table → Table
  | [] => [(key, value)]
  | (other, old) :: rest =>
    if other = key then (key, value) :: rest else (other, old) :: set key value rest

/-- Whether the keys of a path may pass through a table: a table between braces is closed, and one
with a header of its own is closed to dotted keys. -/
def isOpen (dotted : Bool) : Origin → Bool
  | .header => !dotted
  | .inline => false
  | _ => true

/-- Changes the table at the end of a path, which is made on the way. `act` also learns how that
table was made. -/
def alter? (dotted : Bool) (act : Origin → Table → Option Table) :
    List String → Origin → Table → Option Table
  | [], origin, table => act origin table
  | key :: path, _, table =>
    match table.get? key with
    | none => do
      let origin : Origin := if dotted then .dotted else .outer
      let inner ← alter? dotted act path origin []
      pure (table.set key (.table origin inner))
    | some (.table origin inner) =>
      if isOpen dotted origin then do
        let inner ← alter? dotted act path origin inner
        pure (table.set key (.table origin inner))
      else none
    | some (.tables (last :: others)) => do
      let last ← alter? dotted act path .header last
      pure (table.set key (.tables (last :: others)))
    | some _ => none

/-- Adds a value under the last key of a path that leads through tables of dotted keys. -/
def insertAt? (path : List String) (key : String) (value : Value) (table : Table) :
    Option Table :=
  let act (origin : Origin) (table : Table) : Option Table :=
    if !path.isEmpty && origin ≠ .dotted then none
    else if (table.get? key).isSome then none
    else some (table.set key value)
  alter? true act path .header table

/-- Adds the entries of a header; those of a table that a longer header has made are kept. -/
def insertSection? (path : List String) (key : String) (isList : Bool)
    (fill : Table → Option Table) (table : Table) : Option Table :=
  let act (_ : Origin) (table : Table) : Option Table :=
    if isList then do
      let filled ← fill []
      match table.get? key with
      | none => some (table.set key (.tables [filled]))
      | some (.tables others) => some (table.set key (.tables (filled :: others)))
      | some _ => none
    else
      match table.get? key with
      | none => (fill []).map fun filled => table.set key (.table .header filled)
      | some (.table .outer inner) =>
        (fill inner).map fun filled => table.set key (.table .header filled)
      | some _ => none
  alter? false act path .header table

end Table

end Hypermedia.Toml
