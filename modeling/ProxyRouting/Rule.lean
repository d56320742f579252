import ProxyRouting.Endpoint
import ProxyRouting.HostPattern

/-!
# Rules

A rule sends requests of some protocols and to some hosts through one proxy.  The hosts are those
that some pattern of a list matches, or those that none does:

    (only ps).contains h = !(allBut ps).contains h
-/

namespace ProxyRouting

inductive HostScope
  | only (patterns : List HostPattern)
  | allBut (patterns : List HostPattern)
  deriving Repr, DecidableEq

namespace HostScope

def patterns : HostScope → List HostPattern
  | only ps => ps
  | allBut ps => ps

def contains (s : HostScope) (host : String) : Bool :=
  match s with
  | only ps => ps.any (·.isMatch host)
  | allBut ps => !ps.any (·.isMatch host)

def text (s : HostScope) : String :=
  let sources := ",".intercalate (s.patterns.map HostPattern.source)
  match s with
  | only _ => "for [" ++ sources ++ "]"
  | allBut _ => "not for [" ++ sources ++ "]"

end HostScope

structure Rule where
  protocols : List String
  hosts : HostScope
  endpoint : Endpoint
  deriving Repr, DecidableEq

namespace Rule

def applies (r : Rule) (scheme host : String) : Bool :=
  r.protocols.contains scheme && r.hosts.contains host

/-- The protocols in rising order, each once. -/
def sortedProtocols (r : Rule) : List String :=
  r.protocols.eraseDups.mergeSort fun a b => a ≤ b

def text (r : Rule) : String :=
  r.endpoint.text ++ " [" ++ ",".intercalate r.sortedProtocols ++ "] " ++ r.hosts.text

end Rule

end ProxyRouting
