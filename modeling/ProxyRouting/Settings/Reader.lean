import ProxyRouting.Json.Reader
import ProxyRouting.Settings.Basic

/-!
# Reading settings

Settings are an object, or a list of the values in the order of the fields below.  Every field may
be missing; some have a second name with dashes.
-/

namespace ProxyRouting

open Json

/-! ## Servers -/

/-- The kind of a server, from its name. -/
def readKind : Reader ProxyKind := fun s => do
  let (text, rest) ← readString s
  match ProxyKind.ofText text with
  | .ok kind => return (kind, rest)
  | .error reason => .error (.refused reason)

/-- The fields of a server that have been read. -/
structure ServerDraft where
  kind : Option ProxyKind
  host : Option (Option String)
  port : Option (Option UInt16)
  username : Option (Option String)
  password : Option (Option String)
  forHosts : Option (List String)
  notForHosts : Option (List String)
  forProtocols : Option (List String)

namespace ServerDraft

def empty : ServerDraft := ⟨none, none, none, none, none, none, none, none⟩

def fields : List (RecordField ServerDraft) :=
  [.of "type" [] readKind kind fun d a => { d with kind := some a },
    .of "host" [] (readOption readString) host fun d a => { d with host := some a },
    .of "port" [] (readOption readPort) port fun d a => { d with port := some a },
    .of "username" [] (readOption readString) username fun d a => { d with username := some a },
    .of "password" [] (readOption readString) password fun d a => { d with password := some a },
    .of "forHosts" ["for-hosts"] (readList readString) forHosts fun d a =>
      { d with forHosts := some a },
    .of "notForHosts" ["not-for-hosts"] (readList readString) notForHosts fun d a =>
      { d with notForHosts := some a },
    .of "forProtocols" ["for-protocols"] (readList readString) forProtocols fun d a =>
      { d with forProtocols := some a }]

/-- The record, with a default for each field that is missing. -/
def record (d : ServerDraft) : ServerRecord where
  kind := d.kind.getD .http
  host := d.host.getD none
  port := d.port.getD none
  username := d.username.getD none
  password := d.password.getD none
  forHosts := d.forHosts.getD []
  notForHosts := d.notForHosts.getD []
  forProtocols := d.forProtocols.getD defaultProtocols

end ServerDraft

def readServer : Reader ServerRecord := fun s => do
  let (d, rest) ← readRecord "struct ProxyServerConfig" ServerDraft.fields .empty s
  return (d.record, rest)

/-! ## Settings -/

/-- The fields of the settings that have been read. -/
structure SettingsDraft where
  enabled : Option Bool
  alwaysPrint : Option Bool
  printExclusions : Option (List String)
  servers : Option (List ServerRecord)

namespace SettingsDraft

def empty : SettingsDraft := ⟨none, none, none, none⟩

def fields : List (RecordField SettingsDraft) :=
  [.of "enabled" [] readBool enabled fun d a => { d with enabled := some a },
    .of "alwaysPrint" ["always-print"] readBool alwaysPrint fun d a =>
      { d with alwaysPrint := some a },
    .of "printExclusions" ["print-exclusions"] (readList readString) printExclusions fun d a =>
      { d with printExclusions := some a },
    .of "servers" [] (readList readServer) servers fun d a => { d with servers := some a }]

/-- The settings, with the default for each field that is missing. -/
def settings (d : SettingsDraft) : Settings where
  enabled := d.enabled.getD Settings.default.enabled
  alwaysPrint := d.alwaysPrint.getD Settings.default.alwaysPrint
  printExclusions := d.printExclusions.getD Settings.default.printExclusions
  servers := d.servers.getD Settings.default.servers

end SettingsDraft

def readSettings : Reader Settings := fun s => do
  let (d, rest) ← readRecord "struct NetworkProxySettings" SettingsDraft.fields .empty s
  return (d.settings, rest)

/-- The settings that a text holds. -/
def Settings.ofText (text : String) : Except Json.Error Settings :=
  readAll readSettings text

end ProxyRouting
