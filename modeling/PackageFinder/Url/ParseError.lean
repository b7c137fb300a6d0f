/-!
# What can be wrong with an address

The reasons for which a text is refused as an address, and their wording.
-/

namespace PackageFinder.Url

/-- Why a text is no address. -/
inductive ParseError where
  | relativeWithoutBase
  | emptyHost
  | badDomain
  | badDomainCharacter
  | badPort
  | badIpv4
  | badIpv6
  deriving DecidableEq, Repr

def ParseError.message : ParseError → String
  | relativeWithoutBase => "relative URL without a base"
  | emptyHost => "empty host"
  | badDomain => "invalid international domain name"
  | badDomainCharacter => "invalid domain character"
  | badPort => "invalid port number"
  | badIpv4 => "invalid IPv4 address"
  | badIpv6 => "invalid IPv6 address"

end PackageFinder.Url
