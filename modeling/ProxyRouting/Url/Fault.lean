/-!
# What can be wrong with a URL
-/

namespace ProxyRouting.Url

inductive Fault
  | noScheme
  | emptyHost
  | domainName
  | domainCharacter
  | ipv4
  | ipv6
  | port
  deriving Repr, DecidableEq, Inhabited

def Fault.message : Fault → String
  | noScheme => "relative URL without a base"
  | emptyHost => "empty host"
  | domainName => "invalid international domain name"
  | domainCharacter => "invalid domain character"
  | ipv4 => "invalid IPv4 address"
  | ipv6 => "invalid IPv6 address"
  | port => "invalid port number"

end ProxyRouting.Url
