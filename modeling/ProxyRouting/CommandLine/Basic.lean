import ProxyRouting.CommandLine.Arguments
import ProxyRouting.CommandLine.Log
import ProxyRouting.Gateway
import ProxyRouting.Settings.Sources

/-!
# The command line

Prints, for each URL, the route that its destination takes.  The URLs are answered independently of
each other; one that names no destination is skipped with a warning.
-/

namespace ProxyRouting.CommandLine

/-- How the program ends, what it prints and what it tells to the log. -/
structure Outcome where
  code : UInt32
  output : String
  events : List Event
  /-- What is printed as an error, after the log. -/
  failure : String
  deriving DecidableEq

/-- What is printed beside the output. -/
def Outcome.errors (o : Outcome) (w : LogWriter) (env : Environment) : String :=
  w.text env o.events ++ o.failure

/-! ## Routes -/

/-- The username that a route's proxy is used with. -/
def authorization (g : Gateway) (t : Target) : String × List Event :=
  match t.endpoint?, g.credentials with
  | some e, some store =>
    let (c?, event) := store.lookup e.host e.port
    ((c?.map fun c => " (auth: " ++ c.text ++ ")").getD "", [event])
  | _, _ => ("", [])

def ruleText (r : Route) : String :=
  match r.rule? with
  | some i => "rule #" ++ toString i
  | none => "no rule"

/-- What is printed for a URL, and told to the log. -/
def routeUrl (g : Gateway) (url : String) : Gateway × String × List Event :=
  match Destination.ofUri url with
  | .error e => (g, "", [.urlSkipped url e])
  | .ok d =>
    let a := g.router.resolve d
    let t := a.value.target
    let (auth, events) := authorization g t
    ({ g with router := a.router },
      url ++ " -> " ++ t.text ++ " [" ++ ruleText a.value ++ "]" ++ auth ++ "\n",
      a.events ++ events)

def routeUrls (g : Gateway) : List String → String × List Event
  | [] => ("", [])
  | url :: urls =>
    let (g, line, events) := routeUrl g url
    let (lines, more) := routeUrls g urls
    (line ++ lines, events ++ more)

/-- What is printed where proxies are not to be used. -/
def directLines (urls : List String) : String :=
  String.join (urls.map fun url => url ++ " -> DIRECT\n")

/-! ## Errors -/

/-- Puts blanks before all lines of a text but the first. -/
def indented (text : String) : String :=
  String.ofList (text.toList.flatMap fun c => if c == '\n' then "\n       ".toList else [c])

/-- An error with what it comes from. -/
def causedBy (context : String) (e : Error) : String :=
  let causes := e.message :: e.cause?.toList
  let line (p : String × Nat) : String :=
    "\n    " ++ toString p.2 ++ ": " ++ indented p.1
  match causes with
  | [cause] => context ++ "\n\nCaused by:\n    " ++ cause
  | causes => context ++ "\n\nCaused by:" ++ String.join (causes.zipIdx.map line)

def failed (events : List Event) (text : String) : Outcome :=
  ⟨1, "", events, "Error: " ++ text ++ "\n"⟩

/-! ## Running -/

def versionText : String := "netproxy 0.1.0\n"

def helpText : String :=
  "Show which proxy each URL is routed through

Usage: netproxy [OPTIONS] <URLS>...

Arguments:
  <URLS>...  URLs to route

Options:
  -c, --config <CONFIG>  JSON settings file (defaults to $NETWORK_PROXY_CONFIG)
  -h, --help             Print help
  -V, --version          Print version
"

def usageText (fault : UsageFault) : String :=
  "error: " ++ fault.message ++ "\n\nFor more information, try '--help'.\n"

/-- The settings, and the text for the case that they cannot be loaded. -/
def loadSettings (env : Environment) (files : Files) (config : Option String) :
    Except String Settings :=
  let (context, loaded) := match config with
    | some path => ("failed to load settings from " ++ path, Settings.ofFile files path)
    | none => ("failed to load settings", Settings.ofEnvironment env files)
  match loaded with
  | .ok s => .ok s
  | .error e => .error (causedBy context e)

/-- Routes URLs by settings that have been loaded. -/
def routeWith (env : Environment) (settings : Settings) (urls : List String) : Outcome :=
  let (gateway, events) := Gateway.ofSettings env settings
  match gateway with
  | .error e => failed events e.message
  | .ok none => ⟨0, directLines urls, events ++ [.allDirect], ""⟩
  | .ok (some g) =>
    let (lines, more) := routeUrls g urls
    ⟨0, lines, events ++ more, ""⟩

def route (env : Environment) (files : Files) (a : Arguments) : Outcome :=
  match loadSettings env files a.config with
  | .error text => failed [] text
  | .ok settings => routeWith env settings a.urls

def run (env : Environment) (files : Files) (arguments : List String) : Outcome :=
  match read arguments with
  | .error fault => ⟨2, "", [], usageText fault⟩
  | .ok .version => ⟨0, versionText, [], ""⟩
  | .ok .help => ⟨0, helpText, [], ""⟩
  | .ok (.route a) => route env files a

/-- The file that a run reads, if it reads one. -/
def fileNeeded? (env : Environment) (arguments : List String) : Option String :=
  match read arguments with
  | .ok (.route a) => a.config.orElse fun _ => Settings.filePath? env
  | _ => none

end ProxyRouting.CommandLine
