import ProxyRouting.Text.Base64
import ProxyRouting.Text.Inspect

/-!
# Credentials

A username and a password for one proxy.  The password is in the value of the authorization header
and nowhere else: neither `text` nor `inspect` shows it.
-/

namespace ProxyRouting

structure Credential where
  username : String
  password : String
  deriving Repr, DecidableEq, Inhabited

namespace Credential

/-- The value of the header for basic authentication. -/
def basicAuth (c : Credential) : String :=
  let bytes := (c.username ++ ":" ++ c.password).toUTF8.data.toList
  "Basic " ++ String.ofList (Text.Base64.encode bytes)

def text (c : Credential) : String :=
  c.username ++ "/***"

def inspect (c : Credential) : String :=
  Inspect.record "Credential" [("username", Inspect.text c.username),
    ("password", Inspect.text "***")]

end Credential

end ProxyRouting
