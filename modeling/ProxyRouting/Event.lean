import ProxyRouting.Credential
import ProxyRouting.Destination
import ProxyRouting.ProxyVariable.Basic
import ProxyRouting.Route

/-!
# Events

What is told to the log, each kind with its level, text and fields.
-/

namespace ProxyRouting

inductive Level
  | trace
  | debug
  | info
  | warn
  | error
  deriving Repr, DecidableEq, Inhabited

namespace Level

def name : Level → String
  | trace => "TRACE"
  | debug => "DEBUG"
  | info => "INFO"
  | warn => "WARN"
  | error => "ERROR"

/-- Rising with importance. -/
def rank : Level → Nat
  | trace => 0
  | debug => 1
  | info => 2
  | warn => 3
  | error => 4

end Level

inductive Event
  | ruleCompiled (index : Nat) (endpoint : Endpoint) (positive negative : Nat)
  | routeDecided (destination : Destination) (route : Route)
  | routeReported (destination : Destination) (route : Route)
  | connectFailed (uri cause : String)
  | credentialFound (key : String) (credential : Credential)
  | credentialMissing (key : String)
  | variableRefused (protocol shown : String) (fault : ProxyVariable.Fault)
  | variableMissing (protocol : String)
  | variableUsed (v : ProxyVariable)
  | variableIgnored (v : ProxyVariable) (error : Error)
  | proxyingDisabled
  | serversUsed
  | configured (rules credentials : Nat)
  | urlSkipped (url : String) (error : Error)
  | allDirect
  deriving DecidableEq

namespace Event

def level : Event → Level
  | credentialFound .. | credentialMissing _ => .trace
  | ruleCompiled .. | routeDecided .. => .debug
  | routeReported .. | variableMissing _ | variableUsed _ | proxyingDisabled | serversUsed
  | configured .. | allDirect => .info
  | connectFailed .. | urlSkipped .. => .warn
  | variableRefused .. | variableIgnored .. => .error

/-- The part of the program that tells it. -/
def origin : Event → String
  | ruleCompiled .. => "netproxy::proxy::rules"
  | routeDecided .. | routeReported .. | connectFailed .. => "netproxy::proxy::router"
  | credentialFound .. | credentialMissing _ => "netproxy::proxy::credentials"
  | variableRefused .. => "netproxy::proxy::env"
  | variableMissing _ | variableUsed _ | variableIgnored .. | proxyingDisabled | serversUsed
  | configured .. => "netproxy::proxy::setup"
  | urlSkipped .. | allDirect => "netproxy"

def routeText (d : Destination) (r : Route) : String :=
  "Proxies for [" ++ d.text ++ "] : " ++ r.target.text

def fromVariable (v : ProxyVariable) : String :=
  v.forProtocol ++ " from env '" ++ v.name ++ "': "

def message : Event → String
  | ruleCompiled .. => "Compiled proxy rule"
  | routeDecided d r => routeText d r
  | routeReported d r => routeText d r
  | connectFailed uri cause => "Connect failed: " ++ uri ++ ": " ++ cause
  | credentialFound key c => "Using proxy authentication for <" ++ key ++ ">: " ++ c.text
  | credentialMissing key => "No proxy authentication for <" ++ key ++ ">"
  | variableRefused protocol shown (.url fault) =>
    "Could not decode proxy configuration for " ++ protocol ++ ": " ++ shown ++ " - " ++
      fault.message
  | variableRefused protocol shown .hostMissing =>
    "Invalid proxy configuration URL for " ++ protocol ++ ": " ++ shown ++ " - host not specified"
  | variableRefused protocol shown .portMissing =>
    "Invalid proxy configuration URL for " ++ protocol ++ ": " ++ shown ++ " - port not specified"
  | variableMissing protocol => "No proxy configuration found for " ++ protocol
  | variableUsed v => "Configuring proxy for " ++ fromVariable v ++ v.inspect
  | variableIgnored v e => "Ignoring proxy configuration for " ++ fromVariable v ++ e.message
  | proxyingDisabled => "Network proxy configuration is disabled"
  | serversUsed => "Configuring proxies from settings"
  | configured .. => "Network proxy configured"
  | urlSkipped url e => "Skipping " ++ url ++ ": " ++ e.message
  | allDirect => "Proxy configuration disabled, every connection is DIRECT"

/-- The number of a rule, as a field shows it. -/
def ruleText (r : Route) : String :=
  Inspect.option (r.rule?.map toString)

/-- What is told beside the message. -/
def fields : Event → List (String × String)
  | ruleCompiled index endpoint positive negative =>
    [("index", toString index), ("target", endpoint.text), ("positive", toString positive),
      ("negative", toString negative)]
  | routeDecided _ r => [("rule", ruleText r)]
  | routeReported _ r => [("rule", ruleText r)]
  | configured rules credentials =>
    [("rules", toString rules), ("credentials", toString credentials)]
  | _ => []

/-- What a log is handed of an event. -/
structure Shown where
  level : Level
  origin : String
  message : String
  fields : List (String × String)
  deriving Repr, DecidableEq

def shown (e : Event) : Shown :=
  ⟨e.level, e.origin, e.message, e.fields⟩

end Event

end ProxyRouting
