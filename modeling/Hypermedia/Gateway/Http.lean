import Hypermedia.Gateway.Exchange
import Hypermedia.Text.CodePoints

/-!
# HTTP/1 messages

Requests and responses as the bytes of a connection.

* `Http.Head.read` reads the head of a request, `Head.framing` says how its body is delimited.
* `Http.render` writes a response, with the fields that delimit its body.
* `Http.serveAll` serves all requests of a client that sends some bytes and then nothing more.
-/

namespace Hypermedia.Http

/-! ## Heads -/

/-- The version of a message. -/
inductive Version where
  /-- HTTP/1.0, where a connection carries one exchange unless the client wants more. -/
  | http10
  /-- HTTP/1.1, where a connection carries many exchanges unless the client wants one. -/
  | http11
  deriving DecidableEq, Repr

/-- The name of a version. -/
def Version.text : Version → String
  | http10 => "HTTP/1.0"
  | http11 => "HTTP/1.1"

/-- The head of a request. -/
structure Head where
  /-- The method. -/
  method : String
  /-- The target. -/
  uri : Uri
  /-- The version. -/
  version : Version
  /-- The header fields. -/
  headers : Headers
  deriving Repr

/-- Why no request can be read. -/
inductive Stop where
  /-- The bytes end before the request does. -/
  | incomplete
  /-- The bytes are no request. -/
  | malformed
  /-- The head is too large. -/
  | tooLarge
  /-- The target is too long. -/
  | targetTooLong
  deriving DecidableEq, Repr

/-- The status that answers bytes that are no request. -/
def Stop.status? : Stop → Option Nat
  | incomplete => none
  | malformed => some 400
  | tooLarge => some 431
  | targetTooLong => some 414

/-- The greatest number of fields. -/
def maxFields : Nat := 100

/-- Whether a byte may stand in a token. -/
def isTokenByte (b : UInt8) : Bool :=
  isTokenChar (Char.ofNat b.toNat)

/-- Whether a byte may stand in a target. -/
def isTargetByte (b : UInt8) : Bool :=
  0x21 ≤ b && b ≠ 0x7F

/-- Whether a byte is a blank or a tab. -/
def isBlankByte (b : UInt8) : Bool :=
  b = 0x20 || b = 0x09

/-- Characters of one byte each. -/
def asciiText (bytes : Bytes) : String :=
  .ofList (bytes.map fun b => Char.ofNat b.toNat)

/-- Passes empty lines. -/
def skipEmptyLines : Bytes → Except Stop Bytes
  | [] => .error .incomplete
  | 13 :: 10 :: rest => skipEmptyLines rest
  | [13] => .error .incomplete
  | 10 :: rest => skipEmptyLines rest
  | b :: rest => if b = 13 then .error .malformed else .ok (b :: rest)

/-- Passes the end of a line. -/
def lineEnd : Bytes → Except Stop Bytes
  | [] => .error .incomplete
  | 13 :: 10 :: rest => .ok rest
  | [13] => .error .incomplete
  | 10 :: rest => .ok rest
  | _ => .error .malformed

/-- Reads bytes of a kind, at least one, up to a separator. -/
def wordUpTo (separator : UInt8) (isPart : UInt8 → Bool) (s : Bytes) :
    Except Stop (Bytes × Bytes) :=
  let word := s.takeWhile isPart
  match s.drop word.length with
  | [] => .error .incomplete
  | b :: rest => if b = separator && !word.isEmpty then .ok (word, rest) else .error .malformed

/-- Reads a version. -/
def readVersion (s : Bytes) : Except Stop (Version × Bytes) :=
  let word := asciiText (s.take 8)
  if word = "HTTP/1.1" then .ok (.http11, s.drop 8)
  else if word = "HTTP/1.0" then .ok (.http10, s.drop 8)
  else if word.length < 8 && word.toList.isPrefixOf "HTTP/1.".toList then .error .incomplete
  else .error .malformed

/-- Reads the value of a field with the end of its line. -/
def fieldValue (s : Bytes) : Except Stop (Bytes × Bytes) := do
  let s := s.dropWhile isBlankByte
  let value := s.takeWhile isFieldByte
  let rest ← lineEnd (s.drop value.length)
  pure ((value.reverse.dropWhile isBlankByte).reverse, rest)

/-- Reads fields up to the empty line; the first argument bounds their number. -/
def fields : Nat → Bytes → Except Stop (List (String × Bytes) × Bytes)
  | limit, s =>
    match s with
    | [] => .error .incomplete
    | b :: _ =>
      if b = 13 || b = 10 then (lineEnd s).map fun rest => ([], rest)
      else
        match limit with
        | 0 => .error .tooLarge
        | limit + 1 => do
          let (name, rest) ← wordUpTo 58 isTokenByte s
          let (value, rest) ← fieldValue rest
          let (more, rest) ← fields limit rest
          pure (((asciiText name).toLower, value) :: more, rest)

/-- Reads a target. -/
def target (word : Bytes) : Except Stop Uri :=
  if word.length > Uri.maxLength then .error .targetTooLong
  else
    match word.toString?.bind Uri.parse? with
    | some uri => .ok uri
    | none => .error .malformed

/-- Reads the head of a request. -/
def Head.read (s : Bytes) : Except Stop (Head × Bytes) := do
  let (method, rest) ← wordUpTo 32 isTokenByte (← skipEmptyLines s)
  let (word, rest) ← wordUpTo 32 isTargetByte rest
  let (version, rest) ← readVersion rest
  let (fields, rest) ← fields maxFields (← lineEnd rest)
  pure (⟨asciiText method, ← target word, version, ⟨fields⟩⟩, rest)

/-! ## Bodies -/

/-- How a body is delimited. -/
inductive Framing where
  /-- By its length. -/
  | length (n : Nat)
  /-- By chunks, of which the last one is empty. -/
  | chunked
  deriving DecidableEq, Repr

/-- Whether a list in a field has a word, in any letter case. -/
def hasWord (word : String) (value : Bytes) : Bool :=
  (readable? value).any fun text =>
    (Text.splitOn ',' text.toList).any fun piece =>
      (String.ofList (Text.trimEnds ' ' piece)).toLower = word

/-- Whether the last word of a list in a field is `chunked`. -/
def endsChunked (value : Bytes) : Bool :=
  (readable? value).any fun text =>
    ((Text.splitOn ',' text.toList).getLast?).any fun piece =>
      (String.ofList (Text.trimEnds ' ' piece)).toLower = "chunked"

/-- Reads the length of a body. -/
def lengthOf (value : Bytes) : Except Stop Nat :=
  let digits := value.map fun b => Char.ofNat b.toNat
  if digits.isEmpty || !digits.all Char.isDigit then .error .malformed
  else
    let n := digits.foldl (fun n c => n * 10 + (c.toNat - '0'.toNat)) 0
    if Nat.pow 2 64 ≤ n then .error .malformed
    else if Nat.pow 2 64 - 2 ≤ n then .error .tooLarge
    else .ok n

/-- The length that all length fields agree on. -/
def agreedLength : List Bytes → Except Stop Nat
  | [] => .ok 0
  | first :: others => do
    let n ← lengthOf first
    let lengths ← others.mapM lengthOf
    if lengths.all (· = n) then pure n else .error .malformed

/-- How the body of a request is delimited: the last encoding has to be `chunked`, and otherwise all
lengths have to agree. -/
def Head.framing (head : Head) : Except Stop Framing :=
  match (head.headers.getAll "transfer-encoding").getLast? with
  | none => (agreedLength (head.headers.getAll "content-length")).map .length
  | some value =>
    if head.version = .http11 && endsChunked value then .ok .chunked else .error .malformed

/-- Whether the connection goes on after the exchange, as far as the client is concerned. -/
def Head.keepsAlive (head : Head) : Bool :=
  let values := head.headers.getAll "connection"
  match head.version with
  | .http11 => !values.any (hasWord "close")
  | .http10 => values.any (hasWord "keep-alive")

/-- The failure of a body that ends too early. -/
def brokenBody : BodyError := ⟨"unexpected end of body"⟩

/-- Reads chunks up to the empty one; the first argument bounds their number. -/
def chunks? : Nat → Bytes → Option (Bytes × Bytes)
  | 0, _ => none
  | fuel + 1, s =>
    let digits := (s.map fun b => Char.ofNat b.toNat).takeWhile fun c => (Text.hexDigit? c).isSome
    if digits.isEmpty then none
    else
      match lineEnd ((s.drop digits.length).dropWhile isFieldByte) with
      | .error _ => none
      | .ok rest =>
        match Text.hexNumber digits with
        | 0 =>
          match lineEnd rest with
          | .ok rest => some ([], rest)
          | .error _ => none
        | n + 1 =>
          if rest.length < n + 1 then none
          else
            match lineEnd (rest.drop (n + 1)) with
            | .error _ => none
            | .ok after =>
              (chunks? fuel after).map fun (more, after) => (rest.take (n + 1) ++ more, after)

/-- Reads a body: the bytes, and what follows it. -/
def Framing.read (framing : Framing) (s : Bytes) : Except BodyError (Bytes × Bytes) :=
  match framing with
  | .length n => if s.length < n then .error brokenBody else .ok (s.take n, s.drop n)
  | .chunked =>
    match chunks? (s.length + 1) s with
    | some found => .ok found
    | none => .error brokenBody

/-! ## Responses -/

/-- The phrase that goes with a status code. -/
def reason (status : Nat) : String :=
  match status with
  | 200 => "OK"
  | 201 => "Created"
  | 202 => "Accepted"
  | 203 => "Non Authoritative Information"
  | 204 => "No Content"
  | 205 => "Reset Content"
  | 206 => "Partial Content"
  | 300 => "Multiple Choices"
  | 301 => "Moved Permanently"
  | 302 => "Found"
  | 303 => "See Other"
  | 304 => "Not Modified"
  | 307 => "Temporary Redirect"
  | 308 => "Permanent Redirect"
  | 400 => "Bad Request"
  | 401 => "Unauthorized"
  | 403 => "Forbidden"
  | 404 => "Not Found"
  | 405 => "Method Not Allowed"
  | 406 => "Not Acceptable"
  | 409 => "Conflict"
  | 410 => "Gone"
  | 412 => "Precondition Failed"
  | 413 => "Payload Too Large"
  | 414 => "URI Too Long"
  | 415 => "Unsupported Media Type"
  | 422 => "Unprocessable Entity"
  | 429 => "Too Many Requests"
  | 431 => "Request Header Fields Too Large"
  | 500 => "Internal Server Error"
  | 501 => "Not Implemented"
  | 502 => "Bad Gateway"
  | 503 => "Service Unavailable"
  | 504 => "Gateway Timeout"
  | _ => "<none>"

/-- Whether a response to a method may have a body. -/
def hasBody (method : String) (status : Nat) : Bool :=
  method ≠ "HEAD" && status ≠ 204 && status ≠ 304

/-- The fields that say whether the connection goes on. -/
def withConnection (version : Version) (keepsAlive : Bool) (headers : Headers) : Headers :=
  match version with
  | .http11 => if keepsAlive then headers else headers.insert "connection" (Bytes.ofString "close")
  | .http10 =>
    if keepsAlive && !(headers.getAll "connection").any (hasWord "keep-alive") then
      headers.insert "connection" (Bytes.ofString "keep-alive")
    else headers

/-- The fields that delimit the body of a response. A body that is passed on without a length goes
in chunks. -/
def withFraming (version : Version) (response : GatewayResponse) : Headers :=
  let headers := response.headers
  if headers.contains "content-length" || headers.contains "transfer-encoding" then headers
  else
    match response.body with
    | .complete bytes =>
      headers.append "content-length" (Bytes.ofString (toString bytes.length))
    | .relayed _ =>
      if version = .http11 then headers.append "transfer-encoding" (Bytes.ofString "chunked")
      else headers

/-- The fields of a response as they are sent. -/
def sentHeaders (version : Version) (keepsAlive : Bool) (response : GatewayResponse) : Headers :=
  withFraming version
    { response with headers := withConnection version keepsAlive response.headers }

/-- The body of a response to a method as the client reads it. -/
def sentBody (method : String) (response : GatewayResponse) : Except BodyError Bytes :=
  if hasBody method response.status then
    match response.body with
    | .complete bytes => .ok bytes
    | .relayed content => content
  else .ok []

/-- A line of a head. -/
def line (text : Bytes) : Bytes :=
  text ++ [13, 10]

/-- A body in one chunk. -/
def inChunks (bytes : Bytes) : Bytes :=
  let last := line (Bytes.ofString "0") ++ line []
  if bytes.isEmpty then last
  else line (Bytes.ofString (.ofList (Nat.toDigits 16 bytes.length))) ++ line bytes ++ last

/-- The bytes of a response; a body that cannot be read leaves the response without an end. -/
def render (method : String) (version : Version) (keepsAlive : Bool) (response : GatewayResponse) :
    Bytes :=
  let headers := sentHeaders version keepsAlive response
  let isChunked := (headers.getAll "transfer-encoding").any endsChunked
  let statusLine := version.text ++ " " ++ toString response.status ++ " " ++ reason response.status
  let head := line (Bytes.ofString statusLine) ++
    headers.fields.flatMap fun (name, value) => line (Bytes.ofString (name ++ ": ") ++ value)
  let body := match sentBody method response with
    | .ok bytes => if isChunked && hasBody method response.status then inChunks bytes else bytes
    | .error _ => []
  line head ++ body

/-- The response to bytes that are no request. -/
def refusal (status : Nat) : GatewayResponse :=
  ⟨status, ⟨[]⟩, .complete []⟩

/-! ## Connections -/

/-- What a client of HTTP/2 sends first; it gets no answer. -/
def laterProtocol : Bytes :=
  Bytes.ofString "PRI * HTTP/2.0\r\n\r\nSM\r\n\r\n"

/-- The answer to bytes that are no request. -/
def refuse (version : Version) (s : Bytes) (stop : Stop) : Bytes :=
  match stop.status? with
  | none => []
  | some status =>
    if laterProtocol.isPrefixOf s then [] else render "GET" version false (refusal status)

/-- Reads the head of a request, with how its body is delimited, and what follows. -/
def readRequest (s : Bytes) : Except Stop (Head × Framing × Bytes) := do
  let (head, rest) ← Head.read s
  pure (head, ← head.framing, rest)

/-- Serves requests one after the other, where `backend` is what comes back for a request. The first
argument bounds their number. -/
def serve (gateway : Gateway) (backend : BackendRequest → BackendAnswer) :
    Nat → Version → Bytes → StateM (Push.World Unit) Bytes
  | 0, _, _ => pure []
  | fuel + 1, version, s =>
    match readRequest s with
    | .error stop => pure (refuse version s stop)
    | .ok (head, framing, rest) => do
      let found := framing.read rest
      let request : ClientRequest :=
        ⟨head.method, head.uri, head.headers, found.map (·.1)⟩
      let answer := backend (gateway.forwarded request)
      let response ← gateway.respond request answer
      let sent := render head.method head.version head.keepsAlive response
      match found with
      | .error _ => pure sent
      | .ok (_, rest) =>
        if head.keepsAlive then do
          let more ← serve gateway backend fuel head.version rest
          pure (sent ++ more)
        else pure sent

/-- What a client is sent that sends some bytes and then nothing more. -/
def serveAll (gateway : Gateway) (backend : BackendRequest → BackendAnswer) (s : Bytes) : Bytes :=
  ((serve gateway backend (s.length + 1) .http11 s).run gateway.newConnection).1

end Hypermedia.Http
