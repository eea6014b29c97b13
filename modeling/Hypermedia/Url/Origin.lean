import Hypermedia.Url.Parser

/-!
# Origins

The origin of a URL of the web is its scheme, host and port; one that wraps another URL has the
origin of that. Any other URL has an origin of its own, which equals no other.
-/

namespace Hypermedia.Url

/-- The origin of a URL of the web. -/
structure Origin where
  /-- The scheme. -/
  scheme : String
  /-- The host. -/
  host : Host
  /-- The port, also where it is the usual one. -/
  port : Nat
  deriving DecidableEq, Repr

/-- The origin of a URL that is no wrapper. -/
def ownOrigin? (url : Url) : Option Origin := do
  let usual ← defaultPort? url.scheme
  let authority ← url.authority
  let host ← authority.host
  pure ⟨url.scheme, host, authority.port.getD usual⟩

/-- The origin of a URL that wraps at most `depth` others. -/
def originWithin? : Nat → Url → Option Origin
  | 0, _ => none
  | depth + 1, url =>
    if url.scheme = "blob" then
      match parse url.path.text with
      | .ok inner => originWithin? depth inner
      | .error _ => none
    else ownOrigin? url

/-- The origin of a URL, unless it is one of its own. -/
def origin? (url : Url) : Option Origin :=
  originWithin? (url.path.text.length + 1) url

/-- Whether two URLs have the same origin. -/
def sameOrigin (a b : Url) : Bool :=
  match a.origin?, b.origin? with
  | some x, some y => x = y
  | _, _ => false

end Hypermedia.Url
