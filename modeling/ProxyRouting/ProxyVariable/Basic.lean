import ProxyRouting.Settings.Server
import ProxyRouting.Text.Inspect
import ProxyRouting.Url.Fault

/-!
# Proxies named by environment variables

What a variable such as `http_proxy` says, together with `no_proxy`.
-/

namespace ProxyRouting

structure ProxyVariable where
  /-- The scheme of the requests that the proxy serves. -/
  forProtocol : String
  /-- The protocol that the proxy speaks. -/
  scheme : String
  host : String
  port : UInt16
  noProxyHosts : List String
  username : Option String
  password : Option String
  deriving Repr, DecidableEq, Inhabited

/-- Why the value of a variable names no proxy. -/
inductive ProxyVariable.Fault
  | url (fault : Url.Fault)
  | hostMissing
  | portMissing
  deriving Repr, DecidableEq

namespace ProxyVariable

/-- The name of the variable for a protocol. -/
def nameFor (protocol : String) : String :=
  protocol ++ "_proxy"

def name (v : ProxyVariable) : String :=
  nameFor v.forProtocol

def kind (v : ProxyVariable) : ProxyKind :=
  if "socks".toList.isPrefixOf v.scheme.toList then .socks else .http

/-- The value of the variable, with stars for the password. -/
def value (v : ProxyVariable) : String :=
  let userInfo := match v.username with
    | some user => user ++ ":***@"
    | none => ""
  let host := if v.host.toList.contains ':' then "[" ++ v.host ++ "]" else v.host
  v.scheme ++ "://" ++ userInfo ++ hostPort host v.port

def inspect (v : ProxyVariable) : String :=
  Inspect.record "EnvProxySettings" [("for_protocol", Inspect.text v.forProtocol),
    ("scheme", Inspect.text v.scheme), ("host", Inspect.text v.host),
    ("port", toString v.port.toNat),
    ("no_proxy_hosts", Inspect.list (v.noProxyHosts.map Inspect.text)),
    ("username", Inspect.option (v.username.map Inspect.text)),
    ("password", Inspect.option (v.password.map fun _ => Inspect.text "***"))]

/-- The server record that a rule is made of: for all hosts, or all but those without proxy.  It is
without credentials. -/
def toServer (v : ProxyVariable) : ServerRecord :=
  let hosts := v.noProxyHosts
  { ServerRecord.new v.host v.port with
    kind := v.kind
    forHosts := if hosts.isEmpty then ["*"] else []
    notForHosts := hosts
    forProtocols := [v.forProtocol] }

end ProxyVariable

end ProxyRouting
