import Hypermedia.Gateway.CommandLine
import Hypermedia.Gateway.Http

/-!
# The command of the gateway

Checks the configuration of a gateway and says where it listens and where requests go.
-/

namespace Hypermedia.Command

open CommandLine

/-- The arguments that the gateway takes. -/
def helpText : String :=
  let line (setting : Setting) : String :=
    "      --" ++ setting.argument ++ " <VALUE>  [env: " ++ setting.variableName ++ "]\n"
  "Reverse proxy applying Preload and Fields directives to a JSON API\n\n" ++
    "Usage: vulcain_gateway [OPTIONS]\n\nOptions:\n" ++ String.join (Setting.all.map line) ++
    "  -h, --help\n  -V, --version\n"

/-- The message about a command line that gives no configuration. -/
def usageMessage : UsageError → String
  | .help => helpText
  | .version => versionText
  | .missingValue => "error: a value is required\n"
  | .invalidValue => "error: invalid value\n"
  | .unneededValue => "error: unexpected value\n"
  | .unknownArgument => "error: unexpected argument\n"
  | .conflict => "error: arguments cannot be used together\n"
  | .missingBackend => "error: the required argument --upstream was not provided\n"

/-- The message about a gateway that cannot be set up. -/
def gatewayMessage : GatewayError → String
  | .backend url _ => GatewayError.backendMessage url
  | .unreadable => "could not read OpenAPI description"
  | .description _ => "invalid OpenAPI description"

/-- The text of a file, if it can be read. -/
def readText? (path : String) : IO (Option String) := do
  try
    let text ← IO.FS.readFile path
    pure (some text)
  catch _ => pure none

/-- The variables of the environment that settings come from. -/
def readVariables : IO (List (String × String)) := do
  let found ← Setting.all.mapM fun setting => do
    let value ← IO.getEnv setting.variableName
    pure (value.map fun text => (setting.variableName, text))
  pure (found.filterMap id)

/-- Reads the only file that a source needs. -/
def loadSource (source : CommandLine.Source) : IO (Except FileError Configuration) := do
  match source with
  | .settings configuration => pure (.ok configuration)
  | .file path => do
    let text ← readText? path
    pure (source.load fun _ => text)

/-- Sets the gateway up and says so. -/
def check (configuration : Configuration) : IO UInt32 := do
  let text ← match configuration.description with
    | none => pure none
    | some path => readText? path
  match Gateway.ofConfiguration (fun _ => text) configuration with
  | .error error => do
    IO.eprintln (gatewayMessage error)
    pure 1
  | .ok gateway => do
    IO.println ("Listening on " ++ configuration.listen.text)
    IO.println ("Forwarding to " ++ gateway.backend.address)
    pure 0

/-- Runs the command. -/
def run (arguments : List String) : IO UInt32 := do
  let environment ← readVariables
  match CommandLine.read (environment.lookup ·) arguments with
  | .error .help => do
    IO.print (usageMessage .help)
    pure 0
  | .error .version => do
    IO.print (usageMessage .version)
    pure 0
  | .error error => do
    IO.eprint (usageMessage error)
    pure 2
  | .ok source => do
    match ← loadSource source with
    | .ok configuration => check configuration
    | .error .unreadable => do
      IO.eprintln "Couldn't open config TOML"
      pure 1
    | .error .malformed => do
      IO.eprintln "Couldn't parse as TOML"
      pure 1

end Hypermedia.Command

/-- Checks the configuration of a gateway. -/
def main (arguments : List String) : IO UInt32 :=
  Hypermedia.Command.run arguments
