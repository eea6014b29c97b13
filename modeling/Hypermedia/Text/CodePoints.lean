import Hypermedia.Text.Pieces

/-!
# Tables of code points

Properties of characters, given by tables of hexadecimal numbers and ranges.

* `CodeTable` assigns values to intervals; a row of its table reads like `"300-314:e6 315:e8"`.
* `CodePoints` is a set; a row of its table reads like `"ad 300-36f 483-489"`.
* Both are searched by bisection.
-/

namespace Hypermedia.Text

/-! ## Hexadecimal numbers -/

/-- The value of a hexadecimal digit. -/
def hexDigit? (c : Char) : Option Nat :=
  if '0' ≤ c && c ≤ '9' then some (c.toNat - '0'.toNat)
  else if 'a' ≤ c && c ≤ 'f' then some (c.toNat - 'a'.toNat + 10)
  else if 'A' ≤ c && c ≤ 'F' then some (c.toNat - 'A'.toNat + 10)
  else none

/-- The number that hexadecimal digits write; anything else counts as zero. -/
def hexNumber (digits : List Char) : Nat :=
  digits.foldl (fun n c => n * 16 + (hexDigit? c).getD 0) 0

/-! ## Tables -/

/-- Values for closed intervals of numbers, in increasing order. -/
structure CodeTable (α : Type) where
  /-- First and last number of each interval, and its value. -/
  entries : Array (Nat × Nat × α)

namespace CodeTable

variable {α : Type}

/-- The interval that a table writes: a number, or two numbers joined by a hyphen. -/
def interval (text : List Char) : Nat × Nat :=
  match cutAt '-' text with
  | (first, none) => (hexNumber first, hexNumber first)
  | (first, some last) => (hexNumber first, hexNumber last)

/-- Reads rows of entries, each an interval and, after a colon, its value. -/
def ofRows (value : List Char → α) (rows : List String) : CodeTable α :=
  let entry (text : List Char) : Nat × Nat × α :=
    let (numbers, written) := cutAt ':' text
    let (first, last) := interval numbers
    (first, last, value (written.getD []))
  ⟨(rows.flatMap fun row => (splitOn ' ' row.toList).map entry).toArray⟩

/-- Searches the interval that holds `n` between the positions `low` and `high`. -/
def search (entries : Array (Nat × Nat × α)) (n low high : Nat) : Option (Nat × α) :=
  if _inside : low < high then
    let middle := (low + high) / 2
    match entries[middle]? with
    | none => none
    | some (first, last, value) =>
      if n < first then search entries n low middle
      else if last < n then search entries n (middle + 1) high
      else some (first, value)
  else none
termination_by high - low

/-- The first number and the value of the interval that holds a number. -/
def find? (table : CodeTable α) (n : Nat) : Option (Nat × α) :=
  search table.entries n 0 table.entries.size

/-- The value of a number. -/
def get? (table : CodeTable α) (n : Nat) : Option α :=
  (table.find? n).map (·.2)

end CodeTable

/-! ## Sets -/

/-- A set of code points. -/
structure CodePoints where
  /-- The intervals of the set. -/
  table : CodeTable Unit

namespace CodePoints

/-- Reads rows of intervals. -/
def ofTable (rows : List String) : CodePoints :=
  ⟨.ofRows (fun _ => ()) rows⟩

/-- Whether the character is in the set. -/
def contains (set : CodePoints) (c : Char) : Bool :=
  (set.table.get? c.toNat).isSome

end CodePoints

end Hypermedia.Text
