import ProxyRouting.Settings.Server

/-!
# Endpoints and targets

An endpoint is a proxy that a connection may go through; a target is an endpoint, or none where the
connection is made directly.  Hosts are kept as they were written.

    ⟨.http, "p", 80⟩.text = "http://p:80",  ⟨.socks, "::1", 80⟩.text = "socks://[::1]:80"
-/

namespace ProxyRouting

structure Endpoint where
  kind : ProxyKind
  host : String
  port : UInt16
  deriving Repr, DecidableEq, Inhabited

namespace Endpoint

/-- Whether brackets have to be put around a host to tell its colons from that before the port. -/
def needsBrackets (host : List Char) : Bool :=
  host.contains ':' && !(host.head? == some '[' && host.getLast? == some ']')

/-- Host and port. -/
def address (e : Endpoint) : String :=
  let host := if needsBrackets e.host.toList then "[" ++ e.host ++ "]" else e.host
  hostPort host e.port

def text (e : Endpoint) : String :=
  e.kind.name ++ "://" ++ e.address

end Endpoint

inductive Target
  | direct
  | proxy (endpoint : Endpoint)
  deriving Repr, DecidableEq, Inhabited

namespace Target

def http (host : String) (port : UInt16) : Target :=
  proxy ⟨.http, host, port⟩

def socks (host : String) (port : UInt16) : Target :=
  proxy ⟨.socks, host, port⟩

def endpoint? : Target → Option Endpoint
  | direct => none
  | proxy e => some e

def isDirect (t : Target) : Bool :=
  t.endpoint?.isNone

def address? (t : Target) : Option String :=
  t.endpoint?.map Endpoint.address

def text : Target → String
  | direct => "DIRECT"
  | proxy e => e.text

end Target

end ProxyRouting
