import Hypermedia.Directive
import Hypermedia.Url.Origin

/-!
# Relations

A relation is a string of a document that names a related resource.

* `Relation.parse` reads a relation relative to the URL of the document. What has the same origin is
  written as path and query; a reference that names a server but no scheme keeps having none.
* `Relation.withDirectives` lets a relation carry the selections below its node, so that the related
  resource is asked for with the same selection.
* `Resolver` reads the relations of one response, with the help of a `RouteLookup` for documents
  that hold identifiers instead of relations.
* `Relation.preloadLink` advertises a relation.
-/

namespace Hypermedia

/-! ## Relations -/

/-- Why a string is no relation. -/
inductive RelationError where
  /-- The string is empty. -/
  | empty
  /-- The string is no URL. -/
  | invalid (raw : String) (cause : Url.Error)
  deriving DecidableEq, Repr

/-- The message of an error. -/
def RelationError.message : RelationError → String
  | empty => "empty relation"
  | invalid raw cause => "invalid relation " ++ Text.quoted raw ++ ": " ++ cause.message

/-- A resolved relation. -/
structure Relation where
  /-- The URL of the related resource. -/
  url : Url
  /-- Whether it was written relative to the document and has the origin of the document. -/
  sameOrigin : Bool
  /-- Whether it was written with two slashes at the start, so that it names a server but no
  scheme. -/
  schemeRelative : Bool
  /-- Whether a route lookup made it. -/
  fromRouteLookup : Bool
  deriving DecidableEq, Repr

namespace Relation

/-- Reads a relation that may be relative to `base`. -/
def parse (base : Url) (raw : String) : Except RelationError Relation :=
  if raw.isEmpty then .error .empty
  else
    match Url.parse raw with
    | .ok url => .ok ⟨url, false, false, false⟩
    | .error .noBase =>
      match Url.join base raw with
      | .ok url => .ok ⟨url, url.sameOrigin base, ['/', '/'].isPrefixOf raw.toList, false⟩
      | .error cause => .error (.invalid raw cause)
    | .error cause => .error (.invalid raw cause)

/-- The text of a relation: path and query within the origin, no scheme if none was written, and the
whole URL otherwise. -/
def text (relation : Relation) : String :=
  if relation.sameOrigin then relation.url.pathAndQuery
  else if relation.schemeRelative then relation.url.afterScheme
  else relation.url.text

/-- The selections below a node as the values of directives; a directive without selections, or
with one that cannot be written, has none. -/
def nodeDirectives (node : Node) : List (String × String) :=
  Kind.all.filterMap fun kind =>
    (Directive.render? (node.subSelectors kind)).map fun value => (kind.name, value)

/-- The relation with the selections below a node as query parameters. They replace parameters of
the same names. -/
def withDirectives (relation : Relation) (node : Node) : Relation :=
  let directives := nodeDirectives node
  if directives.isEmpty then relation
  else
    let kept := relation.url.queryPairs.filter fun pair =>
      directives.all fun directive => pair.1 ≠ directive.1
    { relation with url := relation.url.withQueryPairs (kept ++ directives) }

/-- The link that advertises a relation. `nopush` tells the client not to wait for a push; the
base URL of the API comes before relations of the same origin. -/
def preloadLink (relation : Relation) (apiUrl : Option String) (nopush : Bool) : String :=
  let start := match apiUrl with
    | some base =>
      if relation.sameOrigin then .ofList (Text.trimEnd '/' base.toList) else ""
    | none => ""
  "<" ++ start ++ relation.text ++ ">; rel=preload; as=fetch" ++ (if nopush then "; nopush" else "")

end Relation

/-! ## Route lookups -/

/-- What is known of the routes of an API. Routes have names. -/
structure RouteLookup where
  /-- The route that serves a request target. -/
  route? : Uri → Option String
  /-- The relation that a string at a selector stands for, in a response of a route. -/
  relation? : String → String → String → Option String

/-! ## Resolving the relations of a response -/

/-- What the relations of one response are read with. The route is looked up once. -/
structure Resolver where
  /-- The URL that relations are relative to. -/
  base : Url
  /-- The non-empty relation that the route lookup makes of a string at a selector. -/
  lookup : String → String → Option String

namespace Resolver

/-- The URL that stands for the origin of the API. -/
def localOrigin : Url :=
  ⟨"http", some ⟨"", "", some (.name "vulcain.invalid"), none⟩, .rooted [""], none, none⟩

/-- The URL that relations in the response to a request are relative to. -/
def baseOf (uri : Uri) : Url :=
  match localOrigin.join uri.path with
  | .ok url => url
  | .error _ => localOrigin

/-- The relation that a route lookup makes of a string; an empty one does not count. -/
def lookupOf (routes : Option RouteLookup) (uri : Uri) : String → String → Option String :=
  match routes with
  | none => fun _ _ => none
  | some routes =>
    let route := routes.route? uri
    fun selector raw =>
      (route.bind fun route => routes.relation? route selector raw).filter (!·.isEmpty)

/-- What the relations in the response to a request are read with. -/
def ofRequest (routes : Option RouteLookup) (uri : Uri) : Resolver :=
  ⟨baseOf uri, lookupOf routes uri⟩

/-- Reads the string at a selector. -/
def resolve (resolver : Resolver) (selector raw : String) : Except RelationError Relation :=
  match resolver.lookup selector raw with
  | some made =>
    (Relation.parse resolver.base made).map fun relation =>
      { relation with fromRouteLookup := true }
  | none => Relation.parse resolver.base raw

end Resolver

end Hypermedia
