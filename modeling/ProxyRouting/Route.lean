import ProxyRouting.Endpoint

/-!
# Routes

The answer to a request: directly, or through the proxy of a rule, which is given by its number.
-/

namespace ProxyRouting

inductive Route
  | direct
  | via (rule : Nat) (endpoint : Endpoint)
  deriving Repr, DecidableEq, Inhabited

namespace Route

def target : Route → Target
  | direct => .direct
  | via _ endpoint => .proxy endpoint

def rule? : Route → Option Nat
  | direct => none
  | via rule _ => some rule

end Route

end ProxyRouting
