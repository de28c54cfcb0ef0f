/-!
# What can be wrong with a URL
-/

namespace TexCompletion.Url

/-- The reason why a text is no URL. -/
inductive Error where
  /-- The scheme needs a host and there is none, or there is a user or port without a host. -/
  | emptyHost
  /-- The host is no domain name. -/
  | badDomain
  | badPort
  | badIpv4
  | badIpv6
  /-- The host of a scheme that is not special holds a character it cannot. -/
  | badHostCharacter
  /-- The text does not begin with a scheme. -/
  | noScheme
deriving DecidableEq, Repr

/-- The wording of an error. -/
def Error.message : Error → String
  | emptyHost => "empty host"
  | badDomain => "invalid international domain name"
  | badPort => "invalid port number"
  | badIpv4 => "invalid IPv4 address"
  | badIpv6 => "invalid IPv6 address"
  | badHostCharacter => "invalid domain character"
  | noScheme => "relative URL without a base"

end TexCompletion.Url
