import Hypermedia.Text.Pieces
import Hypermedia.Text.Utf8

/-!
# Request targets

The URIs that requests carry: a path with an optional query (`/books?page=2`), an absolute URI
(`http://host/books`), an authority alone (`host:443`) or the asterisk. Nothing is decoded or
normalised; a fragment is cut off.

* `Uri.parse?` reads the text of a target.
* `Uri.path`, `Uri.query` and `Uri.pathAndQuery?` are what the rest of the library asks for.
* `Authority.host` and `Authority.port?` read an authority.
-/

namespace Hypermedia

/-- A request target. The parts are kept as they were written, but for the letter case of the
schemes `http` and `https`. -/
structure Uri where
  /-- The scheme of an absolute target. -/
  scheme : Option String
  /-- The authority of an absolute target, or of a target in authority form. -/
  authority : Option String
  /-- The path as it was written, possibly empty. -/
  rawPath : String
  /-- What follows the question mark, if there is one. -/
  query : Option String
  deriving DecidableEq, Repr, Inhabited

namespace Uri

/-! ## Parts of a target -/

/-- The path and query as they were written. -/
def rawPathAndQuery (uri : Uri) : String :=
  match uri.query with
  | none => uri.rawPath
  | some query => uri.rawPath ++ "?" ++ query

/-- The path: `/` where an absolute target or a query comes without one, and empty for a
target in authority form. -/
def path (uri : Uri) : String :=
  if uri.rawPath.isEmpty then
    if uri.scheme.isSome || uri.query.isSome then "/" else ""
  else uri.rawPath

/-- The path and query, unless the target is in authority form. -/
def pathAndQuery? (uri : Uri) : Option String :=
  if uri.scheme.isSome || uri.authority.isNone then
    some (if uri.rawPathAndQuery.isEmpty then "/" else uri.rawPathAndQuery)
  else none

/-! ## Reading a target -/

/-- The longest target that is read, in bytes. -/
def maxLength : Nat := 65534

/-- The longest scheme that is read. -/
def maxSchemeLength : Nat := 64

/-- Whether a character may stand in a path. -/
def isPathChar (c : Char) : Bool :=
  let n := c.toNat
  n = 0x21 || n = 0x22 || (0x24 ≤ n && n ≤ 0x3B) || n = 0x3D || (0x40 ≤ n && n ≤ 0x5F)
    || (0x61 ≤ n && n ≤ 0x7E) || 0x7F ≤ n

/-- Whether a character may stand in a query. -/
def isQueryChar (c : Char) : Bool :=
  let n := c.toNat
  n = 0x21 || (0x24 ≤ n && n ≤ 0x3B) || n = 0x3D || (0x3F ≤ n && n ≤ 0x7E) || 0x7F ≤ n

/-- Whether a character may stand in an authority. -/
def isAuthorityChar (c : Char) : Bool :=
  c.isAlphanum || "!$&'()*+,-.:;=@[]_~%".toList.contains c

/-- Whether a character may stand in a scheme. -/
def isSchemeChar (c : Char) : Bool :=
  c.isAlphanum || c = '+' || c = '-' || c = '.'

/-- Reads a path and query, without scheme and authority. -/
def readPathAndQuery? (s : List Char) : Option (String × Option String) :=
  let text := (Text.cutAt '#' s).1
  let (path, query) := Text.cutAt '?' text
  if path.all isPathChar && (query.getD []).all isQueryChar then
    some (.ofList path, query.map .ofList)
  else none

/-- What is known of an authority after some of its characters. -/
structure AuthorityScan where
  /-- Colons since the last `@` or `]`. -/
  colons : Nat := 0
  /-- Whether a bracket was opened. -/
  opened : Bool := false
  /-- Whether it was closed. -/
  closed : Bool := false
  /-- Whether a percent sign came since the last `@` or `]`. -/
  percent : Bool := false
  /-- Whether the last character was an `@`. -/
  endsWithAt : Bool := false

/-- One more character of an authority. -/
def AuthorityScan.next? (scan : AuthorityScan) (c : Char) : Option AuthorityScan :=
  let scan := { scan with endsWithAt := c = '@' }
  if !isAuthorityChar c then none
  else if c = ':' then
    if scan.colons ≥ 8 then none else some { scan with colons := scan.colons + 1 }
  else if c = '[' then
    if scan.percent || scan.opened then none else some { scan with opened := true }
  else if c = ']' then
    if !scan.opened || scan.closed then none
    else some { scan with closed := true, colons := 0, percent := false }
  else if c = '@' then some { scan with colons := 0, percent := false }
  else if c = '%' then some { scan with percent := true }
  else some scan

/-- Whether the text is an authority: brackets match, what follows the user information has at
most one colon outside of brackets and no percent sign, and something follows an `@`. -/
def isAuthority (s : List Char) : Bool :=
  match s.foldlM AuthorityScan.next? {} with
  | none => false
  | some scan =>
    scan.opened == scan.closed && scan.colons ≤ 1 && !scan.endsWithAt && !scan.percent

/-- The scheme before `://`, and what follows. A scheme may be empty. -/
def splitScheme? (s : List Char) : Option (List Char × List Char) :=
  let scheme := s.takeWhile isSchemeChar
  match s.drop scheme.length with
  | ':' :: '/' :: '/' :: rest => some (scheme, rest)
  | _ => none

/-- The scheme as it is kept: `http` and `https` in lower case, any other as written. -/
def keepScheme (scheme : List Char) : String :=
  let text := String.ofList scheme
  if text.toLower = "http" || text.toLower = "https" then text.toLower else text

/-- Reads a target that does not begin with a slash. -/
def readAbsolute? (s : List Char) : Option Uri :=
  match splitScheme? s with
  | none =>
    if isAuthority s then some ⟨none, some (.ofList s), "", none⟩ else none
  | some (scheme, rest) =>
    let authority := rest.takeWhile fun c => c ≠ '/' && c ≠ '?' && c ≠ '#'
    if scheme.length ≤ maxSchemeLength && !authority.isEmpty && isAuthority authority then
      (readPathAndQuery? (rest.drop authority.length)).map fun (path, query) =>
        ⟨some (keepScheme scheme), some (.ofList authority), path, query⟩
    else none

/-- Reads the text of a request target. -/
def parse? (text : String) : Option Uri :=
  if text.utf8ByteSize > maxLength then none
  else
    match text.toList with
    | [] => none
    | ['*'] => some ⟨none, none, "*", none⟩
    | '/' :: rest =>
      (readPathAndQuery? ('/' :: rest)).map fun (path, query) => ⟨none, none, path, query⟩
    | s => readAbsolute? s

end Uri

/-! ## Authorities -/

namespace Authority

/-- The authority without its user information. -/
def withoutUser (authority : List Char) : List Char :=
  (authority.reverse.takeWhile (· ≠ '@')).reverse

/-- The host: everything up to the closing bracket, or up to the first colon. -/
def host (authority : String) : String :=
  match withoutUser authority.toList with
  | '[' :: rest => .ofList ('[' :: rest.takeWhile (· ≠ ']') ++ [']'])
  | s => .ofList (s.takeWhile (· ≠ ':'))

/-- A port number: decimal digits, after an optional plus sign, below 65536. -/
def portNumber? (s : List Char) : Option Nat :=
  let digits := match s with
    | '+' :: rest => rest
    | s => s
  if digits.isEmpty || !digits.all Char.isDigit then none
  else
    let n := digits.foldl (fun n c => n * 10 + (c.toNat - '0'.toNat)) 0
    if n < 65536 then some n else none

/-- The number after the last colon, if that is a port number. -/
def port? (authority : String) : Option Nat :=
  let s := authority.toList
  if s.contains ':' then portNumber? (s.reverse.takeWhile (· ≠ ':')).reverse else none

end Authority

end Hypermedia
