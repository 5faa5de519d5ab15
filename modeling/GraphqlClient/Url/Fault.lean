/-!
# What is wrong with an address
-/

namespace GraphqlClient

/-- Why a text is no address. -/
inductive UrlFault where
  /-- The scheme needs a server, or a user or port is given without one. -/
  | emptyHost
  /-- The server's name is none that can be looked up. -/
  | hostName
  | port
  | ipv4
  | ipv6
  /-- The server's name has a character that would end it. -/
  | hostCharacter
  /-- The text has no scheme, and there is no address that it could be relative to. -/
  | noBase
  /-- The text is relative to an address without segments. -/
  | rootlessBase
  deriving Repr, DecidableEq, Inhabited

def UrlFault.message : UrlFault → String
  | .emptyHost => "empty host"
  | .hostName => "invalid international domain name"
  | .port => "invalid port number"
  | .ipv4 => "invalid IPv4 address"
  | .ipv6 => "invalid IPv6 address"
  | .hostCharacter => "invalid domain character"
  | .noBase => "relative URL without a base"
  | .rootlessBase => "relative URL with a cannot-be-a-base base"

end GraphqlClient
