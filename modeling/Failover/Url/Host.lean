import Failover.Text.Utf8
import Failover.Url.Percent
import Failover.Url.Ipv4
import Failover.Url.Ipv6
import Failover.Url.Domain

/-! The host of a URL. A network scheme has a domain name in ASCII or an address; in any other
scheme a host that is no IPv6 address is kept as written. -/
namespace Failover

/-- Why a text is no URL. -/
inductive UrlError where
  | emptyHost
  | badDomain
  | badDomainCharacter
  | badPort
  | badIpv4
  | badIpv6
  | relativeWithoutBase
  | relativeToRootless
  deriving DecidableEq, Repr

def UrlError.message : UrlError → String
  | .emptyHost => "empty host"
  | .badDomain => "invalid international domain name"
  | .badDomainCharacter => "invalid domain character"
  | .badPort => "invalid port number"
  | .badIpv4 => "invalid IPv4 address"
  | .badIpv6 => "invalid IPv6 address"
  | .relativeWithoutBase => "relative URL without a base"
  | .relativeToRootless => "relative URL with a cannot-be-a-base base"

/-- Where a URL points. -/
inductive Host where
  | domain (name : List Char)
  | ipv4 (address : Nat)
  | ipv6 (groups : List Nat)
  | verbatim (name : List Char)
  deriving DecidableEq, Repr

namespace Host

/-- The host of a URL that has none. -/
def absent : Host := .verbatim []

def chars : Host → List Char
  | .domain name | .verbatim name => name
  | .ipv4 address => (Ipv4.text address).toList
  | .ipv6 groups => '[' :: (Ipv6.text groups).toList ++ [']']

/-- The address between brackets. -/
def bracketed (cs : List Char) : Except UrlError Host :=
  if cs.getLast? = some ']' then
    match Ipv6.read? (cs.drop 1).dropLast with
    | some groups => .ok (.ipv6 groups)
    | none => .error .badIpv6
  else .error .badIpv6

/-- A host of a network scheme: escapes are undone, the name goes to ASCII, and a name that ends in
a number has to be an address. -/
def network (cs : List Char) : Except UrlError Host :=
  if cs.head? = some '[' then bracketed cs
  else
    match Domain.toAscii? (Percent.decode (Utf8.encode (String.ofList cs))) with
    | none => .error .badDomain
    | some [] => .error .emptyHost
    | some name =>
      if Ipv4.endsInNumber name then
        match Ipv4.read? name with
        | some address => .ok (.ipv4 address)
        | none => .error .badIpv4
      else .ok (.domain name)

/-- The characters that no host may hold as written. -/
def isForbidden (c : Char) : Bool := "\x00\t\n\r #/:<>?@[\\]^|".toList.contains c

/-- A host of any other scheme; control characters are escaped. -/
def other (cs : List Char) : Except UrlError Host :=
  if cs.head? = some '[' then bracketed cs
  else if cs.any isForbidden then .error .badDomainCharacter
  else .ok (.verbatim (Percent.encode Percent.isControl cs))

end Host
end Failover
