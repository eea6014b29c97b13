import Hypermedia.Query
import Hypermedia.Url.Host

/-!
# URLs

A URL in its parts, each part as the text of the URL writes it.

* `Url.text` is the whole text, `Url.afterScheme` what follows the first colon, and
  `Url.pathAndQuery` the part that a server of the same origin asks for.
* `Url.queryPairs` and `Url.withQueryPairs` read and replace the query as a list of pairs.
* `Url.join` and `Url.parse` are in `Hypermedia.Url.Parser`, origins in `Hypermedia.Url.Origin`.
-/

namespace Hypermedia

/-- The part of a URL that names the server. -/
structure Url.Authority where
  /-- The user name, possibly empty. -/
  username : String
  /-- The password, empty if there is none. -/
  password : String
  /-- The host, unless it is empty. -/
  host : Option Url.Host
  /-- The port, unless it is the usual one of the scheme. -/
  port : Option Nat
  deriving DecidableEq, Repr, Inhabited

/-- The path of a URL. -/
inductive Url.Path where
  /-- Segments, each after a slash; with no segments the path is empty. -/
  | rooted (segments : List String)
  /-- A text that has no structure. -/
  | rootless (text : String)
  deriving DecidableEq, Repr, Inhabited

/-- A URL. -/
structure Url where
  /-- The scheme, in lower case. -/
  scheme : String
  /-- The server, if the URL names one. -/
  authority : Option Url.Authority
  /-- The path. -/
  path : Url.Path
  /-- What follows the question mark, if there is one. -/
  query : Option String
  /-- What follows the number sign, if there is one. -/
  fragment : Option String
  deriving DecidableEq, Repr, Inhabited

namespace Url

/-! ## Schemes -/

/-- The usual port of a scheme. -/
def defaultPort? : String → Option Nat
  | "http" | "ws" => some 80
  | "https" | "wss" => some 443
  | "ftp" => some 21
  | _ => none

/-- The forms of URLs, which depend on the scheme. -/
inductive Form where
  /-- A scheme of the web, which needs a host. -/
  | web
  /-- The scheme of local files. -/
  | file
  /-- Any other scheme. -/
  | other
  deriving DecidableEq, Repr

/-- The form of URLs with a scheme. -/
def formOf (scheme : String) : Form :=
  if scheme = "file" then .file
  else if (defaultPort? scheme).isSome then .web
  else .other

/-- Whether backslashes count as slashes. -/
def Form.isSpecial (form : Form) : Bool :=
  form ≠ .other

/-! ## Text -/

/-- The text of a path. -/
def Path.text : Path → String
  | rooted segments => String.join (segments.map ("/" ++ ·))
  | rootless text => text

/-- The text of an authority. -/
def Authority.text (authority : Authority) : String :=
  let user :=
    if authority.username.isEmpty && authority.password.isEmpty then ""
    else if authority.password.isEmpty then authority.username ++ "@"
    else authority.username ++ ":" ++ authority.password ++ "@"
  let port := match authority.port with
    | none => ""
    | some port => ":" ++ toString port
  user ++ ((authority.host.map (·.text)).getD "") ++ port

/-- A part of a URL with the sign that introduces it, if there is one. -/
def marked (sign : String) : Option String → String
  | none => ""
  | some part => sign ++ part

/-- The path and the query. -/
def pathAndQuery (url : Url) : String :=
  url.path.text ++ marked "?" url.query

/-- What stands between the colon of the scheme and the path. A path that starts with two slashes is
kept from being read as a server by a dot before it. -/
def beforePath (url : Url) : String :=
  match url.authority with
  | some authority => "//" ++ authority.text
  | none =>
    match url.path with
    | .rooted ("" :: _ :: _) => "/."
    | _ => ""

/-- What follows the colon of the scheme. -/
def afterScheme (url : Url) : String :=
  url.beforePath ++ url.pathAndQuery ++ marked "#" url.fragment

/-- The text of a URL. -/
def text (url : Url) : String :=
  url.scheme ++ ":" ++ url.afterScheme

/-! ## Queries -/

/-- The pairs of the query. -/
def queryPairs (url : Url) : List (String × String) :=
  Query.pairs (url.query.getD "")

/-- The URL with the given pairs as its query. -/
def withQueryPairs (url : Url) (pairs : List (String × String)) : Url :=
  { url with query := some (Query.render pairs) }

end Url

end Hypermedia
