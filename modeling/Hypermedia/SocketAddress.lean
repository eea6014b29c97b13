import Hypermedia.Uri
import Hypermedia.Url.Ip

/-!
# Socket addresses

The address of an interface with the number of a port, as in `127.0.0.1:8080` and `[::1]:8080`.
Names of hosts are no addresses.

* `SocketAddress.parse?` reads one; an IPv6 address may name a zone by its number.
* `SocketAddress.text` writes it in one way only.
-/

namespace Hypermedia

open Url

/-- The address of a socket. -/
inductive SocketAddress where
  /-- Four bytes. -/
  | v4 (bytes : List Nat) (port : Nat)
  /-- Eight groups, and the number of the zone, which is usually zero. -/
  | v6 (groups : List Nat) (zone : Nat) (port : Nat)
  deriving DecidableEq, Repr, Inhabited

namespace SocketAddress

/-- Reads a decimal number below a limit. -/
def number? (limit : Nat) (digits : List Char) : Option Nat :=
  if digits.isEmpty || !digits.all Char.isDigit then none
  else if Ipv4.natOf 10 digits < limit then some (Ipv4.natOf 10 digits) else none

/-- Reads four decimal numbers without leading zeros. -/
def bytes? (s : List Char) : Option (List Nat) := do
  let bytes ← (Text.splitOn '.' s).mapM Ipv6.byte?
  if bytes.length = 4 then some bytes else none

/-- Reads what follows an opening bracket. -/
def bracketed? (s : List Char) : Option SocketAddress := do
  let (inside, after) := Text.cutAt ']' s
  let (address, zone) := Text.cutAt '%' inside
  let groups ← Ipv6.parse? address
  let zone ← match zone with
    | none => some 0
    | some digits => number? (Nat.pow 2 32) digits
  match ← after with
  | ':' :: digits => (number? 65536 digits).map (.v6 groups zone ·)
  | _ => none

/-- Reads an address. -/
def parse? (text : String) : Option SocketAddress :=
  match text.toList with
  | '[' :: rest => bracketed? rest
  | s => do
    let (address, digits) := Text.cutAt ':' s
    let bytes ← bytes? address
    let port ← number? 65536 (← digits)
    pure (.v4 bytes port)

/-- Decimal numbers separated by dots. -/
def dotted (bytes : List Nat) : String :=
  ".".intercalate (bytes.map toString)

/-- The text of eight groups; an embedded IPv4 address is written as such. -/
def groupsText (groups : List Nat) : String :=
  match groups with
  | [0, 0, 0, 0, 0, 0xFFFF, high, low] =>
    "::ffff:" ++ dotted [high / 256, high % 256, low / 256, low % 256]
  | groups => Ipv6.text groups

/-- Writes an address. -/
def text : SocketAddress → String
  | v4 bytes port => dotted bytes ++ ":" ++ toString port
  | v6 groups zone port =>
    let zone := if zone = 0 then "" else "%" ++ toString zone
    "[" ++ groupsText groups ++ zone ++ "]:" ++ toString port

end SocketAddress

end Hypermedia
