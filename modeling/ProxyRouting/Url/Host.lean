import ProxyRouting.Url.Fault
import ProxyRouting.Url.Idna.Domain
import ProxyRouting.Url.Ipv4
import ProxyRouting.Url.Ipv6
import ProxyRouting.Url.Percent

/-!
# Hosts of URLs

A host is a name or an address.  In schemes whose hosts are looked up (`parse`) a name is a domain
name in ASCII, and one that ends in a number is an address; in all other schemes (`parseOpaque`) a
name is kept but for characters that have to be encoded.
-/

namespace ProxyRouting.Url

inductive Host
  | name (text : List Char)
  | ipv4 (address : Ipv4)
  | ipv6 (address : Ipv6)
  deriving Repr, DecidableEq

namespace Host

def text : Host → List Char
  | name s => s
  | ipv4 a => a.text
  | ipv6 a => '[' :: a.text ++ [']']

/-- An address after its opening bracket. -/
def parseBracketed (s : List Char) : Except Fault Host :=
  if s.getLast? != some ']' then .error .ipv6
  else
    match Ipv6.parse? s.dropLast with
    | some a => .ok (ipv6 a)
    | none => .error .ipv6

def parseDomain (s : List Char) : Except Fault Host :=
  match (Percent.decode? s).bind Idna.toAscii with
  | none => .error .domainName
  | some [] => .error .emptyHost
  | some domain =>
    if Ipv4.endsInNumber domain then
      match Ipv4.parse? domain with
      | some a => .ok (ipv4 a)
      | none => .error .ipv4
    else .ok (name domain)

def parse : List Char → Except Fault Host
  | '[' :: rest => parseBracketed rest
  | s => parseDomain s

/-- What no host may hold, where hosts are not domain names. -/
def isForbidden (c : Char) : Bool :=
  "\x00\t\n\r #/:<>?@[\\]^|".toList.contains c

def parseOpaque : List Char → Except Fault Host
  | '[' :: rest => parseBracketed rest
  | s =>
    if s.any isForbidden then .error .domainCharacter
    else .ok (name (Percent.encode Percent.isControl s))

end Host

end ProxyRouting.Url
