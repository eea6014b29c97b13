import Hypermedia.Text.Quoted
import Hypermedia.Uri

/-!
# Backends

The API behind the gateway, given by a URL.

* `Backend.parse` reads the URL, of which only the authority counts.
* `Backend.address` is where connections go to.
-/

namespace Hypermedia

/-- The API behind the gateway. -/
structure Backend where
  /-- The authority of its URL, as it was written. -/
  authority : String
  deriving DecidableEq, Repr, Inhabited

/-- The reason why a text names no backend. -/
inductive BackendError where
  /-- The text is no URI. -/
  | invalidUri
  /-- The URI has another scheme than `http`; the scheme is empty if it has none. -/
  | unsupportedScheme (scheme : String)
  /-- The URI has no authority. -/
  | missingAuthority
  deriving DecidableEq, Repr

/-- The message of an error, if it has one of its own. -/
def BackendError.message? : BackendError → Option String
  | invalidUri => none
  | unsupportedScheme scheme =>
    some ("unsupported upstream scheme " ++ Text.quoted scheme ++ ", only http is supported")
  | missingAuthority => some "upstream URL has no host"

namespace Backend

/-- The port of a backend whose URL has no port that can be used. -/
def usualPort : Nat := 80

/-- Reads the URL of a backend. -/
def parse (text : String) : Except BackendError Backend :=
  match Uri.parse? text with
  | none => .error .invalidUri
  | some uri =>
    if uri.scheme = some "http" then
      match uri.authority with
      | some authority => .ok ⟨authority⟩
      | none => .error .missingAuthority
    else .error (.unsupportedScheme (uri.scheme.getD ""))

/-- The host, without user information; an IPv6 address keeps its brackets. -/
def host (backend : Backend) : String :=
  Authority.host backend.authority

/-- The port that connections go to. -/
def port (backend : Backend) : Nat :=
  (Authority.port? backend.authority).getD usualPort

/-- Where connections go to: the host and the port. -/
def address (backend : Backend) : String :=
  backend.host ++ ":" ++ toString backend.port

end Backend

end Hypermedia
