import ProxyRouting.CredentialStore
import ProxyRouting.ProxyVariable.Reader
import ProxyRouting.Router

/-!
# Gateways

A router with the credentials of its proxies, made from settings.  The servers of the settings are
used if there are some; without them the environment is asked for each of the default protocols, and
a variable that is no good is left out.
-/

namespace ProxyRouting

structure Gateway where
  router : Router
  /-- There is no store where no proxy wants credentials. -/
  credentials : Option CredentialStore
  deriving DecidableEq

namespace Gateway

/-- Registers the username and password of a record, if it has both, for its host and port. -/
def register (store : CredentialStore) (r : ServerRecord) : CredentialStore :=
  match r.hostPort?, r.username, r.password with
  | some key, some user, some pass => store.add key ⟨user, pass⟩
  | _, _, _ => store

/-- Registers the username and password of a variable, if it has both. -/
def registerVariable (store : CredentialStore) (v : ProxyVariable) : CredentialStore :=
  match v.username, v.password with
  | some user, some pass => store.add (hostPort v.host v.port) ⟨user, pass⟩
  | _, _ => store

/-- What has been set up so far. -/
structure Draft where
  rules : List Rule
  credentials : CredentialStore
  events : List Event

/-- Adds the rule and the credential of a variable; nothing is added if it is no good. -/
def addVariable (draft : Draft) (v : ProxyVariable) : Draft :=
  let (rules, events) := compileRules [v.toServer]
  match rules with
  | .ok rules =>
    ⟨draft.rules ++ rules, registerVariable draft.credentials v,
      draft.events ++ .variableUsed v :: events⟩
  | .error e =>
    { draft with events := draft.events ++ .variableUsed v :: events ++ [.variableIgnored v e] }

/-- Asks the environment for a protocol. -/
def addProtocol (env : Environment) (draft : Draft) (protocol : String) : Draft :=
  let (v?, events) := ProxyVariable.read env protocol
  let draft := { draft with events := draft.events ++ events }
  match v? with
  | some v => addVariable draft v
  | none => { draft with events := draft.events ++ [.variableMissing protocol] }

def ofEnvironment (env : Environment) : Draft :=
  defaultProtocols.foldl (addProtocol env) ⟨[], .empty, []⟩

def ofServers (servers : List ServerRecord) : Except Error Draft × List Event :=
  let (rules, events) := compileRules servers
  let events := .serversUsed :: events
  (rules.map fun rules => ⟨rules, servers.foldl register .empty, events⟩, events)

/-- The gateway of a draft, with the reporting that the settings ask for. -/
def ofDraft (settings : Settings) (draft : Draft) : Gateway × Event :=
  let router := (Router.new draft.rules).withReporting settings.alwaysPrint settings.printExclusions
  let credentials := if draft.credentials.isEmpty then none else some draft.credentials
  (⟨router, credentials⟩, .configured draft.rules.length draft.credentials.size)

/-- The gateway of some settings; none where proxies are not to be used. -/
def ofSettings (env : Environment) (settings : Settings) :
    Except Error (Option Gateway) × List Event :=
  if !settings.enabled then (.ok none, [.proxyingDisabled])
  else
    let (draft, events) :=
      if settings.servers.isEmpty then
        let draft := ofEnvironment env
        (.ok draft, draft.events)
      else ofServers settings.servers
    match draft with
    | .error e => (.error e, events)
    | .ok draft =>
      let (gateway, event) := ofDraft settings draft
      (.ok (some gateway), events ++ [event])

def inspect (g : Gateway) : String :=
  Inspect.record "NetworkProxy" [("router", g.router.inspect),
    ("credentials", Inspect.option (g.credentials.map fun s => toString s.size))]

end Gateway

end ProxyRouting
