import ProxyRouting.CommandLine.Basic
import ProxyRouting.CommandLine.Writer

/-!
# The program

Reads the environment and the settings file, and prints what `CommandLine.run` says.
-/

namespace ProxyRouting

/-- Why reading a file failed. -/
def FileFault.ofIO : IO.Error → FileFault
  | .noFileOrDirectory .. => .missing
  | .permissionDenied .. => .denied
  | .inappropriateType _ code _ => if code == 20 then .notDirectory else .isDirectory
  | e => .other (toString e)

/-- What a file holds. -/
def readFile (path : String) : IO (Except FileFault String) := do
  try
    let bytes ← IO.FS.readBinFile path
    match String.fromUTF8? bytes with
    | some text => return .ok text
    | none => return .error .notText
  catch e => return .error (.ofIO e)

/-- The variables that a run may look at. -/
def variableNames : List String :=
  let proxies := ("no" :: defaultProtocols).map ProxyVariable.nameFor
  proxies ++ proxies.map (fun name => name.map Char.toUpper) ++
    [Settings.fileVariable, "NETWORK_PROXY_ENABLED", "NETWORK_PROXY_ALWAYS_PRINT",
      "NETWORK_PROXY_PRINT_EXCLUSIONS", "RUST_LOG", "LOG_FORMAT"]

def readEnvironment : IO Environment := do
  let mut values := []
  for name in variableNames do
    if let some value ← IO.getEnv name then
      values := (name, value) :: values
  return Environment.ofList values

end ProxyRouting

open ProxyRouting in
def main (arguments : List String) : IO UInt32 := do
  let env ← readEnvironment
  let contents ← match CommandLine.fileNeeded? env arguments with
    | some path => readFile path
    | none => pure (.error .missing)
  let outcome := CommandLine.run env (fun _ => contents) arguments
  IO.print outcome.output
  IO.eprint (outcome.errors .timeless env)
  return outcome.code
