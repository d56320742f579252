import ProxyRouting.Settings.Server
import ProxyRouting.Text.Blank
import ProxyRouting.Text.Cut

/-!
# Settings

Whether proxies are used at all, what is reported, and the proxy servers in order of priority.
-/

namespace ProxyRouting

structure Settings where
  enabled : Bool
  alwaysPrint : Bool
  printExclusions : List String
  servers : List ServerRecord
  deriving Repr, DecidableEq, Inhabited

namespace Settings

/-- Proxies are used, nothing is reported, and there are no servers. -/
def default : Settings := ⟨true, false, [], []⟩

def inspect (s : Settings) : String :=
  Inspect.record "NetworkProxySettings" [("enabled", Inspect.bool s.enabled),
    ("always_print", Inspect.bool s.alwaysPrint),
    ("print_exclusions", Inspect.list (s.printExclusions.map Inspect.text)),
    ("servers", Inspect.list (s.servers.map ServerRecord.inspect))]

end Settings

/-- The entries of a list in one text: separated by commas, without blanks around them, and not
empty. -/
def splitList (text : String) : List String :=
  (((Text.splitAt ',' text.toList).map Text.trim).filter fun e => !e.isEmpty).map String.ofList

end ProxyRouting
