import Hypermedia.Text.Percent
import Hypermedia.Url.Domain.Ascii
import Hypermedia.Url.Ip

/-!
# Hosts

* `Host` is a name or an address.
* `Host.parse` reads the host of a URL of the web or of a file: a domain name in any script
  or an address.
* `Host.parseOther` reads the host of any other URL, whose name means nothing here.
* `Url.Error` lists why the text of a URL may be refused.
-/

namespace Hypermedia

/-- Why the text of a URL is refused. -/
inductive Url.Error where
  /-- A host is needed and none is given. -/
  | emptyHost
  /-- The name of the host is no domain name. -/
  | domainName
  /-- The port is no number below 65536. -/
  | port
  /-- The host looks like an IPv4 address and is none. -/
  | ipv4
  /-- The host in brackets is no IPv6 address. -/
  | ipv6
  /-- The name of the host holds a character that it must not. -/
  | hostCharacter
  /-- The text has no scheme, and there is no URL that it could be relative to. -/
  | noBase
  /-- The text has no scheme, and the URL that it is relative to has no hierarchical path. -/
  | rootlessBase
  deriving DecidableEq, Repr, Inhabited

/-- The message of an error. -/
def Url.Error.message : Url.Error → String
  | emptyHost => "empty host"
  | domainName => "invalid international domain name"
  | port => "invalid port number"
  | ipv4 => "invalid IPv4 address"
  | ipv6 => "invalid IPv6 address"
  | hostCharacter => "invalid domain character"
  | noBase => "relative URL without a base"
  | rootlessBase => "relative URL with a cannot-be-a-base base"

/-- The host of a URL. -/
inductive Url.Host where
  /-- A name, in ASCII. -/
  | name (text : String)
  /-- An IPv4 address. -/
  | ipv4 (address : Nat)
  /-- An IPv6 address, as eight groups. -/
  | ipv6 (groups : List Nat)
  deriving DecidableEq, Repr, Inhabited

namespace Url.Host

/-- A host as a URL writes it. -/
def text : Host → String
  | name text => text
  | ipv4 address => Ipv4.text address
  | ipv6 groups => "[" ++ Ipv6.text groups ++ "]"

/-- Whether a character is printable ASCII. -/
def isPrintable (c : Char) : Bool :=
  0x20 ≤ c.toNat && c.toNat < 0x7F

/-- Reads what stands between a bracket and the end of a host. -/
def parseBracketed (rest : List Char) : Except Error Host :=
  if rest.getLast? = some ']' then
    match Ipv6.parse? rest.dropLast with
    | some groups => .ok (ipv6 groups)
    | none => .error .ipv6
  else .error .ipv6

/-- Reads a domain name or address. -/
def parse : List Char → Except Error Host
  | '[' :: rest => parseBracketed rest
  | s =>
    match Domain.toAscii? (Percent.decode (Utf8.encode s)) with
    | none => .error .domainName
    | some domain =>
      if domain.isEmpty then .error .emptyHost
      else if Ipv4.endsInNumber domain then
        match Ipv4.parse? domain with
        | some address => .ok (ipv4 address)
        | none => .error .ipv4
      else .ok (name (.ofList domain))

/-- The characters that no host may hold. -/
def isForbidden (c : Char) : Bool :=
  "\x00\t\n\r #/:<>?@[\\]^|".toList.contains c

/-- Reads a name that is kept as it is, or an address in brackets. -/
def parseOther : List Char → Except Error Host
  | '[' :: rest => parseBracketed rest
  | s =>
    if s.any isForbidden then .error .hostCharacter
    else .ok (name (.ofList (Percent.encode isPrintable s)))

end Url.Host

end Hypermedia
