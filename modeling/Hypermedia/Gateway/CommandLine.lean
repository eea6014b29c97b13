import Hypermedia.Gateway.Configuration

/-!
# The command line of the gateway

The gateway takes its configuration from a file, or from arguments and variables of the environment.
A variable counts if the argument is not given.

* `Setting` is what may be set, `CommandLine.read` reads arguments and variables.
* `Source.load` is the configuration, given the files that can be read.
-/

namespace Hypermedia.CommandLine

/-! ## Settings -/

/-- What may be set on the command line. -/
inductive Setting where
  /-- The path of a configuration file, which takes the place of all others. -/
  | config
  /-- The URL of the API. -/
  | backend
  /-- The address to listen on. -/
  | listen
  /-- How many connections are served at the same time. -/
  | maxConnections
  /-- How many relations are pushed for a request. -/
  | maxPushes
  /-- What is written before links to the same origin. -/
  | apiUrl
  /-- The path of the description of the API. -/
  | openapi
  /-- When relations in documents are replaced. -/
  | policy
  deriving DecidableEq, Repr

namespace Setting

/-- All settings, in order. -/
def all : List Setting :=
  [config, backend, listen, maxConnections, maxPushes, apiUrl, openapi, policy]

/-- The name of a setting after two hyphens. -/
def argument : Setting → String
  | config => "config"
  | backend => "upstream"
  | listen => "listen"
  | maxConnections => "max-connections"
  | maxPushes => "max-pushes"
  | apiUrl => "api-url"
  | openapi => "openapi"
  | policy => "rewrite-policy"

/-- The variable of a setting. -/
def variableName : Setting → String
  | config => "VULCAIN_CONFIG"
  | backend => "VULCAIN_UPSTREAM"
  | listen => "VULCAIN_LISTEN"
  | maxConnections => "VULCAIN_MAX_CONNECTIONS"
  | maxPushes => "VULCAIN_MAX_PUSHES"
  | apiUrl => "VULCAIN_API_URL"
  | openapi => "VULCAIN_OPENAPI"
  | policy => "VULCAIN_REWRITE_POLICY"

/-- The setting of a name. -/
def named? (name : String) : Option Setting :=
  all.find? (·.argument = name)

end Setting

/-! ## Values -/

/-- Why a command line gives no configuration. -/
inductive UsageError where
  /-- The help was asked for. -/
  | help
  /-- The version was asked for. -/
  | version
  /-- A setting has no value, or an empty one where a path is needed. -/
  | missingValue
  /-- A value is not of the right form. -/
  | invalidValue
  /-- A question for help or the version has a value. -/
  | unneededValue
  /-- An argument is not known. -/
  | unknownArgument
  /-- A setting is given twice, or something else is given along with a configuration file. -/
  | conflict
  /-- Neither the URL of the API nor a configuration file is given. -/
  | missingBackend
  deriving DecidableEq, Repr

/-- The program and its version. -/
def versionText : String := "vulcain_gateway 1.0.8\n"

/-- What was given so far. -/
structure Given where
  /-- The path of a configuration file. -/
  config : Option String := none
  /-- All other settings. -/
  draft : Configuration.Draft := {}
  deriving DecidableEq, Repr, Inhabited

/-- Reads a number below `2^64`; a plus sign may come first. -/
def count? (text : String) : Option Nat :=
  let digits := match text.toList with
    | '+' :: rest => rest
    | s => s
  if digits.isEmpty || !digits.all Char.isDigit then none
  else
    let n := digits.foldl (fun n c => n * 10 + (c.toNat - '0'.toNat)) 0
    if n < Nat.pow 2 64 then some n else none

/-- A value that has to be of a form. -/
def valid {α : Type} : Option α → Except UsageError α
  | some value => .ok value
  | none => .error .invalidValue

/-- A path, which must not be empty. -/
def path (text : String) : Except UsageError String :=
  if text.isEmpty then .error .missingValue else .ok text

namespace Given

/-- Whether a setting is given. -/
def has (given : Given) : Setting → Bool
  | .config => given.config.isSome
  | .backend => given.draft.backendUrl.isSome
  | .listen => given.draft.listen.isSome
  | .maxConnections => given.draft.maxConnections.isSome
  | .maxPushes => given.draft.maxPushes.isSome
  | .apiUrl => given.draft.apiUrl.isSome
  | .openapi => given.draft.description.isSome
  | .policy => given.draft.replacementPolicy.isSome

/-- Gives a setting the value that a text writes. -/
def set (given : Given) (setting : Setting) (text : String) : Except UsageError Given := do
  let draft := given.draft
  match setting with
  | .config => pure { given with config := ← path text }
  | .backend => pure { given with draft := { draft with backendUrl := text } }
  | .listen =>
    pure { given with draft := { draft with listen := ← valid (SocketAddress.parse? text) } }
  | .maxConnections =>
    pure { given with draft := { draft with maxConnections := ← valid (count? text) } }
  | .maxPushes => pure { given with draft := { draft with maxPushes := ← valid (count? text) } }
  | .apiUrl => pure { given with draft := { draft with apiUrl := text } }
  | .openapi => pure { given with draft := { draft with description := ← path text } }
  | .policy =>
    pure { given with
      draft := { draft with replacementPolicy := ← valid (ReplacementPolicy.parse? text) } }

/-- Gives a setting a value by an argument; no setting may be given twice. -/
def setOnce (given : Given) (setting : Setting) (text : String) : Except UsageError Given :=
  if given.has setting then .error .conflict else given.set setting text

end Given

/-! ## Arguments -/

/-- A setting whose value is still to be read, or is read but not yet used. -/
structure Pending where
  /-- The setting. -/
  setting : Setting
  /-- The value, if it was read. -/
  value : Option String

/-- Where reading stands. -/
structure Progress where
  /-- What was given so far. -/
  given : Given := {}
  /-- The setting that was named last. -/
  pending : Option Pending := none
  /-- Whether two hyphens have come, so that no settings can follow. -/
  closed : Bool := false

namespace Progress

/-- Uses the value of the setting that was named last. -/
def settle (progress : Progress) : Except UsageError Progress :=
  match progress.pending with
  | none => .ok progress
  | some ⟨_, none⟩ => .error .missingValue
  | some ⟨setting, some text⟩ => do
    pure { progress with given := ← progress.given.setOnce setting text, pending := none }

/-- Reads an argument that starts with two hyphens. -/
def long (progress : Progress) (name : List Char) (value : Option (List Char)) :
    Except UsageError Progress :=
  let name := String.ofList name
  match Setting.named? name with
  | some setting => do
    let progress ← progress.settle
    match value with
    | none => pure { progress with pending := some ⟨setting, none⟩ }
    | some text =>
      pure { progress with given := ← progress.given.setOnce setting (.ofList text) }
  | none =>
    if name = "help" || name = "version" then
      if value.isSome then .error .unneededValue
      else progress.settle.bind fun _ =>
        .error (if name = "help" then .help else .version)
    else .error .unknownArgument

/-- Reads an argument that starts with one hyphen and a letter. -/
def short (progress : Progress) (letter : Char) : Except UsageError Progress :=
  if letter = 'h' then progress.settle.bind fun _ => .error .help
  else if letter = 'V' then progress.settle.bind fun _ => .error .version
  else .error .unknownArgument

/-- Reads an argument that is no setting: the value of the setting before it. -/
def plain (progress : Progress) (text : List Char) : Except UsageError Progress :=
  match progress.pending with
  | some ⟨setting, none⟩ =>
    .ok { progress with pending := some ⟨setting, some (.ofList text)⟩ }
  | _ => .error .unknownArgument

/-- Reads an argument. -/
def next (progress : Progress) (text : String) : Except UsageError Progress :=
  if progress.closed then .error .unknownArgument
  else
    match text.toList with
    | ['-', '-'] => .ok { progress with closed := true }
    | '-' :: '-' :: rest =>
      let (name, value) := Text.cutAt '=' rest
      progress.long name value
    | '-' :: letter :: _ => progress.short letter
    | text => progress.plain text

end Progress

/-- Reads all arguments. -/
def readArguments (arguments : List String) : Except UsageError Given := do
  let progress ← arguments.foldlM Progress.next {}
  pure (← progress.settle).given

/-! ## The environment -/

/-- Adds the variable of a setting that no argument has given. -/
def addVariable (environment : String → Option String) (given : Given) (setting : Setting) :
    Except UsageError Given :=
  match environment setting.variableName with
  | some text => if given.has setting then .ok given else given.set setting text
  | none => .ok given

/-- Adds the variables of all settings that no argument has given. -/
def addVariables (environment : String → Option String) (given : Given) :
    Except UsageError Given :=
  Setting.all.foldlM (addVariable environment) given

/-! ## Configurations -/

/-- Where the configuration comes from. -/
inductive Source where
  /-- A file. -/
  | file (path : String)
  /-- The command line. -/
  | settings (configuration : Configuration)
  deriving DecidableEq, Repr

/-- The source that is given; a file stands alone. -/
def Given.source (given : Given) : Except UsageError Source :=
  match given.config with
  | some path =>
    if (Setting.all.filter given.has).length > 1 then .error .conflict else .ok (.file path)
  | none =>
    match given.draft.complete? with
    | some configuration => .ok (.settings configuration)
    | none => .error .missingBackend

/-- Reads the command line. -/
def read (environment : String → Option String) (arguments : List String) :
    Except UsageError Source := do
  let given ← readArguments arguments
  (← addVariables environment given).source

/-- Why a configuration file cannot be used. -/
inductive FileError where
  /-- The file cannot be read. -/
  | unreadable
  /-- The file holds no configuration. -/
  | malformed
  deriving DecidableEq, Repr

/-- The configuration of a source, where `files` is the text of each file that can be read. -/
def Source.load (files : String → Option String) : Source → Except FileError Configuration
  | .settings configuration => .ok configuration
  | .file path =>
    match files path with
    | none => .error .unreadable
    | some text =>
      match Configuration.ofToml? (Configuration.directoryOf path) text with
      | some configuration => .ok configuration
      | none => .error .malformed

end Hypermedia.CommandLine
