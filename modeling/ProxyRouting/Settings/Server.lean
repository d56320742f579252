import ProxyRouting.Text.Inspect
import ProxyRouting.Unicode.CaseMap

/-!
# Server records

One proxy server as it stands in the settings: where it is, and for which hosts and protocols it is
meant.  Host and port may be missing here; a rule is made only of a record that has both.

Passwords are kept, but neither shown nor written.
-/

namespace ProxyRouting

/-- The protocol that a proxy speaks. -/
inductive ProxyKind
  | http
  | socks
  deriving Repr, DecidableEq, Inhabited

namespace ProxyKind

def name : ProxyKind → String
  | http => "http"
  | socks => "socks"

/-- The name in the log. -/
def inspect : ProxyKind → String
  | http => "Http"
  | socks => "Socks"

/-- The kind with a given name in any letter case, or why there is none. -/
def ofText (text : String) : Except String ProxyKind :=
  let lower := String.ofList (Unicode.lowercaseOf text.toList)
  if lower = "http" then .ok http
  else if lower = "socks" then .ok socks
  else .error ("unknown proxy type '" ++ lower ++ "' (expected http or socks)")

end ProxyKind

/-- The protocols of requests that proxies serve unless told otherwise. -/
def defaultProtocols : List String := ["http", "https", "ftp"]

structure ServerRecord where
  kind : ProxyKind
  host : Option String
  port : Option UInt16
  username : Option String
  password : Option String
  forHosts : List String
  notForHosts : List String
  forProtocols : List String
  deriving Repr, DecidableEq, Inhabited

/-- What identifies a proxy among others: its host and port as one text. -/
def hostPort (host : String) (port : UInt16) : String :=
  host ++ ":" ++ toString port.toNat

namespace ServerRecord

/-- An HTTP proxy for the default protocols, and for no hosts yet. -/
def new (host : String) (port : UInt16) : ServerRecord :=
  ⟨.http, some host, some port, none, none, [], [], defaultProtocols⟩

def hostPort? (r : ServerRecord) : Option String := do
  return hostPort (← r.host) (← r.port)

def inspect (r : ServerRecord) : String :=
  let texts (l : List String) := Inspect.list (l.map Inspect.text)
  Inspect.record "ProxyServerConfig" [("type", r.kind.inspect),
    ("host", Inspect.option (r.host.map Inspect.text)),
    ("port", Inspect.option (r.port.map fun p => toString p.toNat)),
    ("username", Inspect.option (r.username.map Inspect.text)),
    ("password", Inspect.option (r.password.map fun _ => Inspect.text "***")),
    ("for_hosts", texts r.forHosts), ("not_for_hosts", texts r.notForHosts),
    ("for_protocols", texts r.forProtocols)]

end ServerRecord

end ProxyRouting
