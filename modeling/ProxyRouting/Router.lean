import ProxyRouting.Destination.Uri
import ProxyRouting.Event
import ProxyRouting.Rule.Compile

/-!
# Routers

The first rule that applies to a destination decides its route.  A decision is kept, and a later
request to the same destination gets it without a new one:

    (r.resolve d).value = Route.among r.rules d      (if all that is decided agrees with the rules)

Decisions are told to the log once, and every answer if the router is asked to.
-/

namespace ProxyRouting

/-- The route by the first rule, from number `index` on, that applies. -/
def Route.amongFrom (index : Nat) (d : Destination) : List Rule → Route
  | [] => .direct
  | rule :: rules =>
    if rule.applies d.scheme d.host then .via index rule.endpoint else amongFrom (index + 1) d rules

/-- The route to a destination by the first rule that applies. -/
def Route.among (rules : List Rule) (d : Destination) : Route :=
  amongFrom 0 d rules

structure Router where
  rules : List Rule
  /-- The routes that are decided, each destination once. -/
  decided : List (Destination × Route)
  alwaysPrint : Bool
  printExclusions : List String
  deriving DecidableEq

/-- An answer, the router after it, and what was told to the log. -/
structure Answer (α : Type) where
  value : α
  router : Router
  events : List Event

namespace Answer

def map {α β : Type} (f : α → β) (a : Answer α) : Answer β :=
  ⟨f a.value, a.router, a.events⟩

end Answer

namespace Router

/-- A router that has decided nothing yet and reports no answers. -/
def new (rules : List Rule) : Router :=
  ⟨rules, [], false, []⟩

/-- The router of some records, and what is told to the log as they are compiled. -/
def ofServers (records : List ServerRecord) : Except Error Router × List Event :=
  let (rules, events) := compileRules records
  (rules.map new, events)

/-- Reports every answer, or none, but for some hosts. -/
def withReporting (alwaysPrint : Bool) (exclusions : List String) (r : Router) : Router :=
  { r with alwaysPrint := alwaysPrint, printExclusions := exclusions }

def reports (r : Router) (d : Destination) : Bool :=
  r.alwaysPrint && !r.printExclusions.contains d.host

/-- The route to a destination. -/
def resolve (r : Router) (d : Destination) : Answer Route :=
  let report (route : Route) : List Event := if r.reports d then [.routeReported d route] else []
  match r.decided.lookup d with
  | some route => ⟨route, r, report route⟩
  | none =>
    let route := Route.among r.rules d
    ⟨route, { r with decided := (d, route) :: r.decided }, .routeDecided d route :: report route⟩

/-- How many destinations are decided. -/
def decidedCount (r : Router) : Nat :=
  r.decided.length

def inspect (r : Router) : String :=
  Inspect.record "ProxyRouter"
    [("rules", Inspect.list (r.rules.map fun rule => Inspect.text rule.text)),
      ("cached_routes", toString r.decidedCount), ("always_print", Inspect.bool r.alwaysPrint)]

end Router

/-! ## Requests -/

/-- What a router is asked: for a route, for its target only, for the target of a URI, or to take
note that a connection failed.  A request can name no destination at all. -/
inductive Request
  | resolve (scheme host : String)
  | select (scheme host : String)
  | selectUri (uri : String)
  | connectFailed (uri cause : String)
  deriving Repr, DecidableEq

inductive Reply
  | route (route : Route)
  | target (target : Target)
  | noted
  deriving Repr, DecidableEq

namespace Router

/-- Answers a request to a destination, or refuses one without and leaves all as it is. -/
def ask {α : Type} (r : Router) (d : Except Error Destination) (f : Route → α) :
    Answer (Except Error α) :=
  match d with
  | .ok d => (r.resolve d).map fun route => .ok (f route)
  | .error e => ⟨.error e, r, []⟩

def answer (r : Router) : Request → Answer (Except Error Reply)
  | .resolve scheme host => r.ask (Destination.of scheme host) .route
  | .select scheme host => r.ask (Destination.of scheme host) fun route => .target route.target
  | .selectUri uri => r.ask (Destination.ofUri uri) fun route => .target route.target
  | .connectFailed uri cause => ⟨.ok .noted, r, [.connectFailed uri cause]⟩

/-- Answers requests one after the other; each answer has the router after it. -/
def run (r : Router) : List Request → List (Answer (Except Error Reply))
  | [] => []
  | request :: requests =>
    let a := r.answer request
    a :: a.router.run requests

end Router

end ProxyRouting
