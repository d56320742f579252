import ProxyRouting.Destination.Uri
import ProxyRouting.Event
import ProxyRouting.Environment
import ProxyRouting.Settings.Basic

/-!
# Reading proxy variables

The value is a URL, or one without its scheme.  A blank value is none; one that cannot be read, or
that lacks a host or a port, is reported with its password hidden, and then counts as none.

The port has to be written, even where it is the default of the scheme.
-/

namespace ProxyRouting.ProxyVariable

open Text (trim cut? cutLast? cutAt?)
open Destination (authorityMark upToDelimiter withoutBrackets)

/-! ## Parts of the value as it is written -/

/-- What stands before the authority (up to `://`, or `//` at the start, or nothing), and the
rest. -/
def splitAuthority (s : List Char) : List Char × List Char :=
  match cutAt? authorityMark s with
  | some (scheme, rest) => (scheme ++ authorityMark, rest)
  | none =>
    match s with
    | '/' :: '/' :: rest => (['/', '/'], rest)
    | _ => ([], s)

/-- The authority as it is written. -/
def authority (s : List Char) : List Char :=
  upToDelimiter (splitAuthority s).2

/-- User information, if there is some, and host and port. -/
def splitUserInfo (authority : List Char) : Option (List Char) × List Char :=
  match cutLast? '@' authority with
  | some (info, rest) => (some info, rest)
  | none => (none, authority)

/-- Drops pairs of slashes at the start. -/
def dropSlashPairs : List Char → List Char
  | '/' :: '/' :: rest => dropSlashPairs rest
  | s => s

/-- The value with a scheme, which is `http` unless told otherwise. -/
def withScheme (s : List Char) : List Char :=
  if (cutAt? authorityMark s).isSome then s else "http://".toList ++ dropSlashPairs s

/-- Whether digits for a port are written. -/
def writesPort (hostPort : List Char) : Bool :=
  let port? := match hostPort with
    | '[' :: _ => (cut? ']' hostPort).bind fun (_, rest) =>
      match rest with
      | ':' :: port => some port
      | _ => none
    | _ => (cutLast? ':' hostPort).map Prod.snd
  match port? with
  | some port => !port.isEmpty && port.all Char.isDigit
  | none => false

/-- A percent-encoded text; one whose bytes are no text stays as it is. -/
def decoded (s : List Char) : String :=
  String.ofList ((Url.Percent.decode? s).getD s)

/-! ## Hiding the password -/

/-- The value with stars for its password. -/
def redacted (s : List Char) : List Char :=
  let (before, rest) := splitAuthority s
  match cutLast? '@' (upToDelimiter rest) with
  | none => s
  | some (info, hostPort) =>
    match cut? ':' info with
    | none => s
    | some (user, _) =>
      before ++ user ++ ":***@".toList ++ hostPort ++ rest.drop (upToDelimiter rest).length

/-! ## Reading -/

/-- The port of a URL, which has to be written and not zero. -/
def port? (url : Url) (hostPort : List Char) : Option UInt16 :=
  (url.port.or (if writesPort hostPort then url.effectivePort? else none)).filter (· != 0)

/-- Username and password of user information. -/
def credentials (info : List Char) : String × String :=
  match cut? ':' info with
  | some (user, pass) => (decoded user, decoded pass)
  | none => (decoded info, "")

/-- What a value that is not blank says. -/
def ofValue (protocol : String) (value : List Char) (noProxy : Option String) :
    Except Fault ProxyVariable := do
  let value := withScheme value
  let url ← match Url.parse value with
    | .ok url => .ok url
    | .error fault => .error (.url fault)
  let (info?, hostPort) := splitUserInfo (authority value)
  let host ← match url.hostText? with
    | some (c :: host) => .ok (withoutBrackets (c :: host))
    | _ => .error .hostMissing
  let port ← match port? url hostPort with
    | some port => .ok port
    | none => .error .portMissing
  return ⟨protocol, String.ofList url.scheme, String.ofList host, port,
    (noProxy.map splitList).getD [], info?.map fun info => (credentials info).1,
    info?.map fun info => (credentials info).2⟩

/-- What a value says, if there is one. -/
def parse (protocol : String) (value noProxy : Option String) : Option ProxyVariable × List Event :=
  match value.map fun text => trim text.toList with
  | none | some [] => (none, [])
  | some (c :: rest) =>
    match ofValue protocol (c :: rest) noProxy with
    | .ok v => (some v, [])
    | .error fault =>
      (none, [.variableRefused protocol (String.ofList (redacted (c :: rest))) fault])

/-- What the environment says for a protocol. -/
def read (env : Environment) (protocol : String) : Option ProxyVariable × List Event :=
  parse protocol (env.ignoringCase (nameFor protocol)) (env.ignoringCase "no_proxy")

end ProxyRouting.ProxyVariable
