import Hypermedia.Settings
import Hypermedia.SocketAddress
import Hypermedia.Toml.Parser

/-!
# Configuration of the gateway

What the gateway has to know before it starts. It comes from the command line or from a TOML file.

* `Draft` holds what was given so far, `Draft.complete?` fills in the defaults.
* `Configuration.ofToml?` reads a file, in which paths are relative to its directory.
-/

namespace Hypermedia

/-- The configuration of the gateway. -/
structure Configuration where
  /-- The URL of the API behind the gateway. -/
  backendUrl : String
  /-- The address to listen on. -/
  listen : SocketAddress
  /-- How many connections are served at the same time. -/
  maxConnections : Nat
  /-- The path of the description of the API. -/
  description : Option String
  /-- How responses are processed. -/
  settings : Settings
  deriving DecidableEq, Repr, Inhabited

namespace Configuration

/-- The usual address: all interfaces, and the alternative port of the web. -/
def usualListen : SocketAddress :=
  .v4 [0, 0, 0, 0] 8080

/-- The usual number of connections. -/
def usualMaxConnections : Nat := 512

/-! ## Drafts -/

/-- What was given of a configuration. -/
structure Draft where
  /-- The URL of the API behind the gateway. -/
  backendUrl : Option String := none
  /-- The address to listen on. -/
  listen : Option SocketAddress := none
  /-- How many connections are served at the same time. -/
  maxConnections : Option Nat := none
  /-- How many relations are pushed for a request. -/
  maxPushes : Option Nat := none
  /-- What is written before links to the same origin. -/
  apiUrl : Option String := none
  /-- The path of the description of the API. -/
  description : Option String := none
  /-- When relations in documents are replaced. -/
  replacementPolicy : Option ReplacementPolicy := none
  deriving DecidableEq, Repr, Inhabited

/-- The configuration that a draft stands for; it has to name the API. -/
def Draft.complete? (draft : Draft) : Option Configuration :=
  draft.backendUrl.map fun backendUrl =>
    { backendUrl := backendUrl
      listen := draft.listen.getD usualListen
      maxConnections := draft.maxConnections.getD usualMaxConnections
      description := draft.description
      settings :=
        { maxPushes := draft.maxPushes
          apiUrl := draft.apiUrl
          replacementPolicy := draft.replacementPolicy.getD .query } }

/-! ## Paths -/

/-- A path that is relative to a directory. -/
def resolvePath (directory path : String) : String :=
  if path.toList.head? = some '/' || directory.isEmpty then path
  else if directory.toList.getLast? = some '/' then directory ++ path
  else directory ++ "/" ++ path

/-- The directory of a file. -/
def directoryOf (path : String) : String :=
  let above := (path.toList.reverse.dropWhile (· = '/')).dropWhile (· ≠ '/')
  let directory := above.dropWhile (· = '/')
  if directory.isEmpty && !above.isEmpty then "/" else .ofList directory.reverse

/-! ## TOML files -/

open Toml (Table)

/-- The text of a value. -/
def textOf? : Toml.Value → Option String
  | .string text => some text
  | _ => none

/-- The number of a value that is not negative. -/
def countOf? : Toml.Value → Option Nat
  | .integer (.ofNat n) => some n
  | _ => none

/-- The address in a value. -/
def addressOf? (value : Toml.Value) : Option SocketAddress := do
  SocketAddress.parse? (← textOf? value)

/-- Whether a value holds nothing. -/
def isEmptyValue : Toml.Value → Bool
  | .array [] => true
  | .table _ [] => true
  | _ => false

/-- The policy of a value: its name, or a table in which the name stands for nothing. -/
def policyOf? : Toml.Value → Option ReplacementPolicy
  | .string name => ReplacementPolicy.named? name
  | .table _ [(name, value)] =>
    if isEmptyValue value then ReplacementPolicy.named? name else none
  | _ => none

/-- Reads the value of a key, if it is there. -/
def keyOf? {α : Type} (table : Table) (key : String) (read : Toml.Value → Option α) :
    Option (Option α) :=
  match table.get? key with
  | none => some none
  | some value => (read value).map some

/-- Reads a draft from a table; other keys are ignored. -/
def Draft.ofTable? (table : Table) : Option Draft := do
  pure {
    backendUrl := ← keyOf? table "upstream" textOf?
    listen := ← keyOf? table "listen" addressOf?
    maxConnections := ← keyOf? table "max_connections" countOf?
    maxPushes := ← keyOf? table "max_pushes" countOf?
    apiUrl := ← keyOf? table "api_url" textOf?
    description := ← keyOf? table "openapi" textOf?
    replacementPolicy := ← keyOf? table "rewrite_policy" policyOf? }

/-- Reads a file in a directory. -/
def ofToml? (directory text : String) : Option Configuration := do
  let draft ← Draft.ofTable? (← Toml.parse? text.toList)
  let configuration ← draft.complete?
  pure { configuration with
    description := configuration.description.map (resolvePath directory) }

end Configuration

end Hypermedia
