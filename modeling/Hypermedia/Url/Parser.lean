import Hypermedia.Url.Basic

/-!
# Reading URLs

* `Url.parse` reads a URL that begins with a scheme.
* `Url.join` reads a reference relative to a URL. A reference with a scheme stands on its own.

Blanks and control characters at both ends do not count, nor do tabs and line ends anywhere. In URLs
of the web and of files a backslash counts as a slash. Characters that may not stand in a part are
percent-encoded, dot segments are resolved, and the usual port is dropped.
-/

namespace Hypermedia.Url

/-! ## Characters -/

/-- Whether a character stands for itself in a part that gives no ASCII character but those in
`special` a meaning. -/
def isPlain (special : String) (c : Char) : Bool :=
  Host.isPrintable c && !special.toList.contains c

/-- Whether a character stands for itself in a fragment. -/
def isFragmentChar : Char → Bool :=
  isPlain " \"<>`"

/-- Whether a character stands for itself in a path. -/
def isPathChar : Char → Bool :=
  isPlain " \"<>`#?\x7b\x7d"

/-- Whether a character stands for itself in a user name or password. -/
def isUserChar : Char → Bool :=
  isPlain " \"<>`#?\x7b\x7d/:;=@[\\]^|"

/-- Whether a character stands for itself in a query. -/
def isQueryChar (form : Form) : Char → Bool :=
  if form.isSpecial then isPlain " \"#<>'" else isPlain " \"#<>"

/-- Percent-encodes the characters that do not stand for themselves. -/
def encoded (keeps : Char → Bool) (s : List Char) : String :=
  .ofList (Percent.encode keeps s)

/-- Whether a character ends a segment. -/
def isSlash (form : Form) (c : Char) : Bool :=
  c = '/' || (form.isSpecial && c = '\\')

/-- Whether a character begins the query or the fragment. -/
def isPathEnd (c : Char) : Bool :=
  c = '?' || c = '#'

/-- The text without the characters that do not count. -/
def clean (text : String) : List Char :=
  let dropBlanks (s : List Char) : List Char := s.dropWhile (·.toNat ≤ 0x20)
  (dropBlanks (dropBlanks text.toList).reverse).reverse.filter fun c =>
    c ≠ '\t' && c ≠ '\n' && c ≠ '\r'

/-- Whether a character may stand in a scheme. -/
def isSchemeChar (c : Char) : Bool :=
  c.isAlphanum || c = '+' || c = '-' || c = '.'

/-- The scheme in lower case, and what follows its colon. -/
def splitScheme? (s : List Char) : Option (String × List Char) :=
  let scheme := s.takeWhile isSchemeChar
  match s.drop scheme.length with
  | ':' :: rest =>
    if scheme.head?.any Char.isAlpha then some ((String.ofList scheme).toLower, rest) else none
  | _ => none

/-! ## Query and fragment -/

/-- Reads the fragment, given what follows the path and query. -/
def readFragment : List Char → Option String
  | '#' :: rest => some (encoded isFragmentChar rest)
  | _ => none

/-- Reads the query and the fragment, given what follows the path. -/
def readQuery (form : Form) : List Char → Option String × Option String
  | '?' :: rest =>
    let query := rest.takeWhile (· ≠ '#')
    (some (encoded (isQueryChar form) query), readFragment (rest.drop query.length))
  | s => (none, readFragment s)

/-! ## Paths -/

/-- Whether a segment stands for the directory itself. -/
def isSingleDot (segment : String) : Bool :=
  segment = "." || segment.toLower = "%2e"

/-- Whether a segment stands for the directory above. -/
def isDoubleDot (segment : String) : Bool :=
  segment = ".." || segment.toLower = ".%2e" || segment.toLower = "%2e." ||
    segment.toLower = "%2e%2e"

/-- Whether a text is a drive: a letter and a colon or bar. -/
def isDrive (s : List Char) : Bool :=
  match s with
  | [letter, mark] => letter.isAlpha && (mark = ':' || mark = '|')
  | _ => false

/-- Whether a drive stands at the start of a text, as a segment or before a slash, a query or a
fragment. -/
def startsWithDrive : List Char → Bool
  | letter :: mark :: rest =>
    isDrive [letter, mark] && rest.head?.all fun c => c = '/' || c = '\\' || isPathEnd c
  | _ => false

/-- The drive with a colon as its mark. -/
def withColon (drive : List Char) : String :=
  .ofList (drive.take 1 ++ [':'])

/-- The directory above; a drive has none. -/
def parent (directories : List String) : List String :=
  if directories.getLast?.any (startsWithDrive ·.toList) then directories
  else directories.dropLast

/-- A segment as the path keeps it, in the given directories. -/
def keptSegment (form : Form) (directories : List String) (segment : String) : String :=
  if form = .file && directories.isEmpty && isDrive segment.toList then withColon segment.toList
  else segment

/-- The directories after entering a segment. -/
def enter (form : Form) (directories : List String) (segment : String) : List String :=
  if isDoubleDot segment then parent directories
  else if isSingleDot segment then directories
  else directories ++ [keptSegment form directories segment]

/-- The segments of a path that ends with the given segment. -/
def endWith (form : Form) (directories : List String) (segment : String) : List String :=
  if isDoubleDot segment then parent directories ++ [""]
  else if isSingleDot segment then directories ++ [""]
  else directories ++ [keptSegment form directories segment]

/-- Follows segments from some directories. -/
def follow (form : Form) (directories : List String) : List String → List String
  | [] => directories
  | [last] => endWith form directories last
  | segment :: rest => follow form (enter form directories segment) rest

/-- The segments that a text writes, without query and fragment. -/
def pieces (form : Form) (s : List Char) : List String :=
  (Text.splitOn '/' (s.map fun c => if isSlash form c then '/' else c)).map (encoded isPathChar)

/-- Reads a path after its first slash, from some directories: its segments, and the rest. -/
def readPath (form : Form) (directories : List String) (s : List Char) :
    List String × List Char :=
  let text := s.takeWhile (!isPathEnd ·)
  (follow form directories (pieces form text), s.drop text.length)

/-- The segments without empty ones at the start, but for the last one. -/
def dropEmpty : List String → List String
  | "" :: segment :: rest => dropEmpty (segment :: rest)
  | segments => segments

/-- The path of a file, from some directories. -/
def readFilePath (directories : List String) (s : List Char) : List String × List Char :=
  let (segments, rest) := readPath .file directories s
  (dropEmpty segments, rest)

/-! ## Servers -/

/-- Reads a port after its colon: the port, and the rest. -/
def readPort (scheme : String) (s : List Char) : Except Error (Option Nat × List Char) :=
  let digits := s.takeWhile Char.isDigit
  let rest := s.drop digits.length
  let port := Ipv4.natOf 10 digits
  if 65535 < port then .error .port
  else if rest.head?.all fun c => c = '/' || c = '\\' || isPathEnd c then
    .ok (if digits.isEmpty || defaultPort? scheme = some port then none else some port, rest)
  else .error .port

/-- Reads the host and the port: both, and the rest. An empty host must not have a port. -/
def readHost (scheme : String) (s : List Char) :
    Except Error (Option Host × Option Nat × List Char) := do
  let form := formOf scheme
  let text := hostText form false s
  let rest := s.drop text.length
  if text.isEmpty then
    if form.isSpecial || rest.head? = some ':' then .error .emptyHost
    else .ok (none, none, rest)
  else
    let host ← if form.isSpecial then Host.parse text else Host.parseOther text
    match rest with
    | ':' :: rest => do
      let (port, rest) ← readPort scheme rest
      pure (some host, port, rest)
    | rest => .ok (some host, none, rest)
where
  /-- The text of the host; a colon ends it unless it is between brackets. -/
  hostText (form : Form) (bracketed : Bool) : List Char → List Char
    | [] => []
    | c :: rest =>
      if isSlash form c || isPathEnd c || (c = ':' && !bracketed) then []
      else c :: hostText form (c = '[' || (bracketed && c ≠ ']')) rest

/-- The user name and the password before an `@`. -/
def readUser (s : List Char) : String × String :=
  let (username, password) := Text.cutAt ':' s
  (encoded isUserChar username, encoded isUserChar (password.getD []))

/-- Reads a server after two slashes: the server, and the rest. What stands before the last `@` is
the user. -/
def readAuthority (scheme : String) (s : List Char) : Except Error (Authority × List Char) := do
  let form := formOf scheme
  let text := s.takeWhile fun c => !isSlash form c && !isPathEnd c
  let hostLength := (text.reverse.takeWhile (· ≠ '@')).length
  let user := (text.take (text.length - hostLength)).dropLast
  let afterUser := s.drop (text.length - hostLength)
  if user.isEmpty && text.contains '@' && hostLength = 0 && !afterUser.isEmpty then
    .error .emptyHost
  else
    let (username, password) := readUser user
    let (host, port, rest) ← readHost scheme afterUser
    if host.isNone && !(username.isEmpty && password.isEmpty) then .error .emptyHost
    else .ok (⟨username, password, host, port⟩, rest)

/-! ## Whole URLs -/

/-- Reads what follows a server. -/
def afterAuthority (scheme : String) (authority : Authority) (s : List Char) : Url :=
  let form := formOf scheme
  let noPath := !form.isSpecial && s.head?.all isPathEnd
  let (segments, rest) :=
    if noPath then ([], s)
    else if s.head?.any (isSlash form) then readPath form [] (s.drop 1)
    else readPath form [] s
  let (query, fragment) := readQuery form rest
  ⟨scheme, some authority, .rooted segments, query, fragment⟩

/-- Reads what follows the two slashes before a server. -/
def readServer (scheme : String) (s : List Char) : Except Error Url := do
  let (authority, rest) ← readAuthority scheme s
  pure (afterAuthority scheme authority rest)

/-- Reads what follows the scheme of a URL without a known form. -/
def readOther (scheme : String) : List Char → Except Error Url
  | '/' :: '/' :: rest => readServer scheme rest
  | '/' :: rest =>
    let (segments, rest) := readPath .other [] rest
    let (query, fragment) := readQuery .other rest
    .ok ⟨scheme, none, .rooted segments, query, fragment⟩
  | s =>
    let path := s.takeWhile (!isPathEnd ·)
    let (query, fragment) := readQuery .other (s.drop path.length)
    .ok ⟨scheme, none, .rootless (encoded Host.isPrintable path), query, fragment⟩

/-- The server of a file on this machine. -/
def noServer : Authority := ⟨"", "", none, none⟩

/-- The URL of a file. -/
def fileUrl (host : Option Host) (segments : List String) (rest : List Char) : Url :=
  let (query, fragment) := readQuery .file rest
  ⟨"file", some { noServer with host := host }, .rooted segments, query, fragment⟩

/-- The host of a file: none for this machine. -/
def fileHost (s : List Char) : Except Error (Option Host) := do
  if s.isEmpty then .ok none
  else
    let host ← Host.parse s
    if host = .name "localhost" then pure none else pure (some host)

/-- Reads what follows two slashes in the URL of a file. A drive is no host, and a path that begins
with a drive needs none. -/
def readFileServer (s : List Char) : Except Error Url := do
  let text := s.takeWhile fun c => !isSlash .file c && !isPathEnd c
  let text := if isDrive text then [] else text
  let rest := s.drop text.length
  match ← fileHost text with
  | none =>
    let (segments, rest) := readFilePath [] rest
    pure (fileUrl none segments rest)
  | some host =>
    let start := if rest.head?.any (isSlash .file) then rest.drop 1 else rest
    let (segments, rest) := readPath .file [] start
    let host := if segments.head?.any (isDrive ·.toList) then none else some host
    pure (fileUrl host (dropEmpty segments) rest)

/-- The segments of a URL. -/
def segments (url : Url) : List String :=
  match url.path with
  | .rooted segments => segments
  | .rootless _ => []

/-- The host of a URL. -/
def host? (url : Url) : Option Host :=
  url.authority.bind (·.host)

/-- Reads what follows one slash in the URL of a file. The drive or else the host is that of the URL
it is relative to, unless a drive is given. -/
def readFileRoot (base : Option Url) (s : List Char) : Url :=
  let drive := (base.bind (·.segments.head?)).filter fun segment =>
    isDrive segment.toList && segment.toList.getLast? = some ':'
  let given := startsWithDrive s
  let start := if given then [] else drive.toList
  let host := if given || drive.isSome then none else base.bind (·.host?)
  let (segments, rest) := readFilePath start s
  fileUrl host segments rest

/-- The URL without its fragment, with the fragment that follows. -/
def withFragment (url : Url) (s : List Char) : Url :=
  { url with fragment := readFragment s }

/-- The URL with the query and the fragment that follow. -/
def withQuery (url : Url) (s : List Char) : Url :=
  let (query, fragment) := readQuery (formOf url.scheme) s
  { url with query := query, fragment := fragment }

/-- Reads the URL of a file after its scheme, or relative to the URL of a file. -/
def readFile (base : Option Url) (s : List Char) : Except Error Url :=
  let first := s.head?
  if first.any (isSlash .file) then
    if (s.drop 1).head?.any (isSlash .file) then readFileServer (s.drop 2)
    else .ok (readFileRoot base (s.drop 1))
  else
    match base with
    | none =>
      let (segments, rest) := readFilePath [] s
      .ok (fileUrl none segments rest)
    | some base =>
      if first = none || first = some '#' then .ok (base.withFragment s)
      else if first = some '?' then .ok (base.withQuery s)
      else if startsWithDrive s then
        let (segments, rest) := readFilePath [] s
        .ok (fileUrl none segments rest)
      else
        let (segments, rest) := readFilePath (directories base) s
        .ok ({ base with path := .rooted segments }.withQuery rest)
where
  /-- The directories of a URL; a drive at the end is one of them. -/
  directories (base : Url) : List String :=
    if base.segments.getLast?.any fun s => isDrive s.toList && s.toList.getLast? = some ':' then
      base.segments
    else base.segments.dropLast

/-- Reads a URL that begins with a scheme. -/
def parse (text : String) : Except Error Url :=
  match splitScheme? (clean text) with
  | none => .error .noBase
  | some (scheme, rest) =>
    match formOf scheme with
    | .web => readServer scheme (rest.dropWhile (isSlash .web))
    | .file => readFile none rest
    | .other => readOther scheme rest

/-- Reads a reference without a scheme, relative to a URL with a hierarchical path. Here a
backslash at the start counts as a slash for every scheme. -/
def readRelative (base : Url) (s : List Char) : Except Error Url :=
  let form := formOf base.scheme
  let first := s.head?
  if first = none || first = some '#' then .ok (base.withFragment s)
  else if first = some '?' then .ok (base.withQuery s)
  else if first.any (isSlash .web) then
    if (s.drop 1).head?.any (isSlash .web) then
      readServer base.scheme
        (if ['/', '/'].isPrefixOf s then s.drop 2 else s.dropWhile (isSlash .web))
    else
      let (segments, rest) := readPath form [] (s.drop 1)
      .ok ({ base with path := .rooted segments }.withQuery rest)
  else
    let (segments, rest) := readPath form base.segments.dropLast s
    .ok ({ base with path := .rooted segments }.withQuery rest)

/-- Reads a reference relative to a URL. -/
def join (base : Url) (reference : String) : Except Error Url :=
  let s := clean reference
  match splitScheme? s with
  | some _ => parse reference
  | none =>
    if s.head? = some '#' then .ok (base.withFragment s)
    else
      match base.path with
      | .rootless _ => .error .rootlessBase
      | .rooted _ =>
        if formOf base.scheme = .file then readFile (some base) s else readRelative base s

end Hypermedia.Url
