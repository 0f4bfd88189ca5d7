set_option autoImplicit false

namespace SiteCache

inductive UrlError where
  | emptyHost
  | invalidDomain
  | invalidDomainChar
  | invalidPort
  | invalidIpv4
  | invalidIpv6
  | relative
  deriving DecidableEq, Repr

def UrlError.message : UrlError → String
  | .emptyHost => "empty host"
  | .invalidDomain => "invalid international domain name"
  | .invalidDomainChar => "invalid domain character"
  | .invalidPort => "invalid port number"
  | .invalidIpv4 => "invalid IPv4 address"
  | .invalidIpv6 => "invalid IPv6 address"
  | .relative => "relative URL without a base"

end SiteCache
