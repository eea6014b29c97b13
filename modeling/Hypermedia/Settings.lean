import Hypermedia.Json.Parser
import Hypermedia.Text.Quoted

/-!
# Settings

How responses are processed.

* `ReplacementPolicy` says when relations in a document are replaced by their resolved form.
* `Settings` holds the policy, the push budget and how links are written.
* `Settings.parse?` reads settings from JSON.
-/

namespace Hypermedia

/-! ## Replacement policies -/

/-- When relations in a document are replaced by their resolved form. -/
inductive ReplacementPolicy where
  /-- Only if a directive came from the query. -/
  | query
  /-- In every response. -/
  | always
  /-- In no response. -/
  | never
  deriving DecidableEq, Repr, Inhabited

namespace ReplacementPolicy

/-- All policies. -/
def all : List ReplacementPolicy := [query, always, never]

/-- The name of a policy. -/
def name : ReplacementPolicy → String
  | query => "query"
  | always => "always"
  | never => "never"

/-- Whether relations are replaced, given whether a directive came from the query. -/
def replaces : ReplacementPolicy → Bool → Bool
  | query, fromQuery => fromQuery
  | always, _ => true
  | never, _ => false

/-- The policy of exactly this name. -/
def named? (name : String) : Option ReplacementPolicy :=
  all.find? (·.name = name)

/-- The policy of this name, in any letter case. -/
def parse? (text : String) : Option ReplacementPolicy :=
  all.find? (·.name = text.toLower)

/-- The message about a text that names no policy. -/
def unknownMessage (text : String) : String :=
  "unknown rewrite policy " ++ Text.quoted text ++ ", expected one of: query, always, never"

end ReplacementPolicy

/-! ## Settings -/

/-- How responses are processed. -/
structure Settings where
  /-- Pushes allowed in each push cycle; none means any number, zero disables pushing. -/
  maxPushes : Option Nat := none
  /-- Whether the links of a response are sent ahead of it. -/
  earlyHints : Bool := false
  /-- What is written before links to the same origin. -/
  apiUrl : Option String := none
  /-- When relations in documents are replaced. -/
  replacementPolicy : ReplacementPolicy := .query
  deriving DecidableEq, Repr, Inhabited

namespace Settings

/-- Whether pushing is disabled altogether. -/
def pushDisabled (settings : Settings) : Bool :=
  settings.maxPushes = some 0

/-- The names of the settings, in order. -/
def names : List String :=
  ["max_pushes", "early_hints", "api_url", "rewrite_policy"]

/-! ## Reading settings -/

open Json (Literal)

/-- A count below `2^64`, or null. -/
def countOf? : Literal → Option (Option Nat)
  | .null => some none
  | .number text =>
    match Json.numberOf? text with
    | some (.integer (.ofNat n)) => some (some n)
    | _ => none
  | _ => none

/-- A truth value. -/
def flagOf? : Literal → Option Bool
  | .bool b => some b
  | _ => none

/-- A text, or null. -/
def textOf? : Literal → Option (Option String)
  | .null => some none
  | .string text => text.map some
  | _ => none

/-- A policy: its name, or an object with the name as its only member and null as the value. -/
def policyOf? : Literal → Option ReplacementPolicy
  | .string (some name) => ReplacementPolicy.named? name
  | .object [(some name, .null)] => ReplacementPolicy.named? name
  | _ => none

/-- Gives one of the settings, by its place in `names`, the value written. -/
def set? (settings : Settings) (index : Nat) (value : Literal) : Option Settings :=
  match index with
  | 0 => (countOf? value).map fun n => { settings with maxPushes := n }
  | 1 => (flagOf? value).map fun b => { settings with earlyHints := b }
  | 2 => (textOf? value).map fun s => { settings with apiUrl := s }
  | 3 => (policyOf? value).map fun p => { settings with replacementPolicy := p }
  | _ => none

/-- Reads members of an object. Unknown names are ignored, and a known one must not be repeated;
`seen` holds the places of those that were read. -/
def ofMembers? (settings : Settings) (seen : List Nat) :
    List (Option String × Literal) → Option Settings
  | [] => some settings
  | (none, _) :: _ => none
  | (some name, value) :: rest =>
    match names.idxOf? name with
    | none => ofMembers? settings seen rest
    | some index =>
      if seen.contains index then none
      else
        match settings.set? index value with
        | none => none
        | some settings => ofMembers? settings (index :: seen) rest

/-- Reads the elements of a list from a place on: the settings in order, where those at the end may
be missing. -/
def ofElements? (settings : Settings) (index : Nat) : List Literal → Option Settings
  | [] => some settings
  | value :: rest =>
    match settings.set? index value with
    | none => none
    | some settings => ofElements? settings (index + 1) rest

/-- Reads settings from an object, or from a list of the values in order. -/
def ofLiteral? : Literal → Option Settings
  | .object members => ofMembers? {} [] members
  | .array elements => ofElements? {} 0 elements
  | _ => none

/-- Reads settings from a JSON text. -/
def parse? (text : String) : Option Settings := do
  ofLiteral? (← Literal.parse? text.toList)

end Settings

end Hypermedia
