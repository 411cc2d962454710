import Scrobbler.Url.Domain.Basic
import Scrobbler.Url.Encoding
import Scrobbler.Url.Ipv6

/-!
Hosts of addresses. Where the scheme is one of those that have a host, a host is a domain name or a
numeric address; elsewhere its text is kept as it is.
-/

namespace Scrobbler.Url

inductive Host
  | named (name : List Char)
  | numeric (address : Nat)
  /-- Eight pieces of sixteen bits. -/
  | pieced (pieces : List Nat)
  deriving DecidableEq, Repr

namespace Host

/-- The written form. -/
def chars : Host → List Char
  | .named name => name
  | .numeric address => Ipv4.chars address
  | .pieced pieces => '[' :: Ipv6.chars pieces ++ [']']

/-- A host in brackets. -/
def ofBrackets? (s : List Char) : Option Host :=
  if s.getLast? = some ']' then (Ipv6.address? (s.drop 1).dropLast).map .pieced else none

/-- The host with a name in its ASCII form; one that ends in a number is numeric. -/
def ofAscii? (name : List Char) : Option Host :=
  if name.isEmpty then none
  else if Ipv4.endsInNumber name then (Ipv4.address? name).map .numeric
  else some (.named name)

/-- Reads a domain name, which may be in percent form, or a numeric address. -/
def ofDomain? (s : List Char) : Option Host :=
  if s.head? = some '[' then ofBrackets? s
  else do ofAscii? (← Domain.ascii? (← unescape? s))

/-- Reads a host that is kept as it is. -/
def ofText? (s : List Char) : Option Host :=
  if s.head? = some '[' then ofBrackets? s
  else if s.any fun c => c == '\x00' || " #/:<>?@[\\]^|".toList.contains c then none
  else some (.named (escape (fun _ => false) s))

end Host

end Scrobbler.Url
