/-
**Hosts.**

The host of a web URL is percent-decoded and brought into the form that is looked up; in brackets
it is an IPv6 address, and one that ends in a number must be an IPv4 address. The host of any other
URL is only checked for characters that cannot stand there.
-/

import Docsite.Text.Percent
import Docsite.Url.Domain
import Docsite.Url.Ipv4
import Docsite.Url.Ipv6

namespace Docsite.Url

/-- The address in a bracketed host. -/
def bracketedHost (host : List Char) : Except UrlError Host :=
  if host.getLast? != some ']' then .error .invalidIpv6Address
  else match Ipv6.address? (host.drop 1).dropLast with
    | some groups => .ok (.ipv6 groups)
    | none => .error .invalidIpv6Address

/-- The host of a web URL. -/
def webHost (host : List Char) : Except UrlError Host :=
  if host.head? == some '[' then bracketedHost host
  else match (Text.Percent.decode? (String.ofList host)).bind (Domain.toAscii? ·.toList) with
    | none => .error .invalidInternationalDomainName
    | some [] => .error .emptyHost
    | some name =>
      if Ipv4.endsInNumber name then
        match Ipv4.address? name with
        | some address => .ok (.ipv4 address)
        | none => .error .invalidIpv4Address
      else .ok (.domain name)

/-- Whether a character cannot stand in the host of a URL that is not a web URL. -/
def isForbiddenInHost (c : Char) : Bool :=
  c ∈ ['\x00', '\t', '\n', '\r', ' ', '#', '/', ':', '<', '>', '?', '@', '[', '\\', ']', '^', '|']

/-- The host of a URL that is not a web URL; it may be empty. -/
def otherHost (host : List Char) : Except UrlError Host :=
  if host.head? == some '[' then bracketedHost host
  else if host.any isForbiddenInHost then .error .invalidDomainCharacter
  else .ok (.domain host)

end Docsite.Url
