import ProxyRouting.Environment
import ProxyRouting.Error
import ProxyRouting.Settings.Reader

/-!
# Where settings come from

Settings are read from a file.  Without one named, they are the default; in either case three
environment variables each override one field.  A file that is named but cannot be read is an error,
whatever the other variables say.
-/

namespace ProxyRouting.Settings

/-- The variable that names the settings file. -/
def fileVariable : String := "NETWORK_PROXY_CONFIG"

def ofFile (files : Files) (path : String) : Except Error Settings :=
  match files path with
  | .error fault => .error (.file fault)
  | .ok text =>
    match ofText text with
    | .error e => .error (.settings e)
    | .ok s => .ok s

/-- The file that the environment names. -/
def filePath? (env : Environment) : Option String := do
  let path := Text.trim (← env fileVariable).toList
  if path.isEmpty then none else some (String.ofList path)

/-- A truth value, if a text is one but for blanks around it. -/
def switch? (text : String) : Option Bool :=
  let word := String.ofList (Text.trim text.toList)
  if word = "true" then some true else if word = "false" then some false else none

/-- Each override that is set replaces its own field. -/
def override (env : Environment) (s : Settings) : Settings where
  enabled := ((env "NETWORK_PROXY_ENABLED").bind switch?).getD s.enabled
  alwaysPrint := ((env "NETWORK_PROXY_ALWAYS_PRINT").bind switch?).getD s.alwaysPrint
  printExclusions := ((env "NETWORK_PROXY_PRINT_EXCLUSIONS").map splitList).getD s.printExclusions
  servers := s.servers

def ofEnvironment (env : Environment) (files : Files) : Except Error Settings := do
  let s ← match filePath? env with
    | none => .ok default
    | some path => ofFile files path
  return s.override env

end ProxyRouting.Settings
