import ProxyRouting.Event

/-!
# Credentials by proxy

Credentials are found by host and port, as one text.  Of two for the same proxy the later counts:

    (s.add k c).find? k' = if k' = k then some c else s.find? k'
-/

namespace ProxyRouting

structure CredentialStore where
  /-- Each key once, in the order in which they were first added. -/
  entries : List (String × Credential)
  deriving Repr, DecidableEq, Inhabited

namespace CredentialStore

def empty : CredentialStore := ⟨[]⟩

/-- Puts a credential in the place of the one with its key, or at the end. -/
def insert (key : String) (c : Credential) :
    List (String × Credential) → List (String × Credential)
  | [] => [(key, c)]
  | e :: entries => if e.1 = key then (key, c) :: entries else e :: insert key c entries

def add (s : CredentialStore) (key : String) (c : Credential) : CredentialStore :=
  ⟨insert key c s.entries⟩

def find? (s : CredentialStore) (key : String) : Option Credential :=
  s.entries.lookup key

def size (s : CredentialStore) : Nat :=
  s.entries.length

def isEmpty (s : CredentialStore) : Bool :=
  s.entries.isEmpty

/-- The credential of a proxy; that it was looked for is told to the log. -/
def lookup (s : CredentialStore) (host : String) (port : UInt16) : Option Credential × Event :=
  let key := hostPort host port
  match s.find? key with
  | some c => (some c, .credentialFound key c)
  | none => (none, .credentialMissing key)

def inspect (s : CredentialStore) : String :=
  let entry (e : String × Credential) : String := Inspect.text e.1 ++ ": " ++ e.2.inspect
  Inspect.record "CredentialStore"
    [("entries", "\x7b" ++ ", ".intercalate (s.entries.map entry) ++ "\x7d")]

end CredentialStore

end ProxyRouting
