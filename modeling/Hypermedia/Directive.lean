import Hypermedia.Header
import Hypermedia.Query
import Hypermedia.Selector.Tree
import Hypermedia.StructuredField
import Hypermedia.Uri

/-!
# Directives of a request

A request asks for relations and fields by the directives `preload` and `fields`: lists of
pointers, sent as header fields or as query parameters.

* `Directives.ofRequest` reads both directives. A header wins over the query, and the two are
  never merged; a directive that cannot be read is absent.
* `Directives.tree` merges their pointers.
* `Directive.render?` writes a list of pointers as the value of a directive.
-/

namespace Hypermedia

/-- Where a directive was read from. -/
inductive Source where
  /-- Header fields. -/
  | header
  /-- Query parameters. -/
  | query
  deriving DecidableEq, Repr, Inhabited

/-- A directive: its pointers and where they came from. -/
structure Directive where
  /-- The pointers, in order. -/
  paths : List String
  /-- Where they came from. -/
  source : Source
  deriving DecidableEq, Repr, Inhabited

/-- The directives of a request. -/
structure Directives where
  /-- The `preload` directive. -/
  preload : Option Directive
  /-- The `fields` directive. -/
  fields : Option Directive
  deriving DecidableEq, Repr, Inhabited

namespace Directive

/-- The pointers that a structured list writes; items that are no strings are ignored. -/
def parsePaths? (text : String) : Option (List String) :=
  (StructuredField.parseList? text).map fun members =>
    members.filterMap fun
      | .item ⟨.string path, _⟩ => some path
      | _ => none

/-- Writes pointers as a structured list; none if there are no pointers or one of them cannot be
written. -/
def render? (paths : List String) : Option String :=
  if paths.isEmpty then none else StructuredField.renderStrings? paths

/-- The readable values of the header fields of a directive. -/
def headerLines (kind : Kind) (headers : Headers) : List String :=
  (headers.getAll kind.name).filterMap readable?

/-- The values of the query parameters of a directive. -/
def queryValues (kind : Kind) (query : String) : List String :=
  ((Query.pairs query).filter (·.1 = kind.name)).map (·.2)

/-- Reads a directive from several values, taken as one list. -/
def ofValues? (source : Source) (values : List String) : Option Directive :=
  if values.isEmpty then none
  else (parsePaths? (", ".intercalate values)).map (⟨·, source⟩)

/-- Reads a directive: from the header fields if they hold a list, otherwise from the query. -/
def ofRequest? (kind : Kind) (headers : Headers) (query : String) : Option Directive :=
  (ofValues? .header (headerLines kind headers)).or
    (ofValues? .query (queryValues kind query))

end Directive

namespace Directives

/-- Reads both directives of a request. -/
def ofRequest (headers : Headers) (uri : Uri) : Directives :=
  let query := uri.query.getD ""
  ⟨Directive.ofRequest? .preload headers query, Directive.ofRequest? .fields headers query⟩

/-- One of the directives. -/
def get? (directives : Directives) : Kind → Option Directive
  | .preload => directives.preload
  | .fields => directives.fields

/-- The pointers of one directive. -/
def paths (directives : Directives) (kind : Kind) : List String :=
  ((directives.get? kind).map (·.paths)).getD []

/-- Whether a directive came from header fields. -/
def isFromHeader (directives : Directives) (kind : Kind) : Bool :=
  (directives.get? kind).any (·.source = .header)

/-- Whether a directive came from the query. -/
def isFromQuery (directives : Directives) (kind : Kind) : Bool :=
  (directives.get? kind).any (·.source = .query)

/-- Whether any directive came from the query. -/
def anyFromQuery (directives : Directives) : Bool :=
  Kind.all.any directives.isFromQuery

/-- The merged pointers of both directives. -/
def tree (directives : Directives) : SelectorTree :=
  .build (directives.paths .preload) (directives.paths .fields)

end Directives

end Hypermedia
