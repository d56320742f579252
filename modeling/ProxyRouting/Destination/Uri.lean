import ProxyRouting.Destination
import ProxyRouting.Url.Basic

/-!
# The destination of a URI

The scheme is that of the URL, if the text is one, and what stands before `://` otherwise.  The host
is taken as it is written, without user information, port and brackets, so that patterns see the
letters that the user wrote; only where none is written is it the host of the URL.

    Destination.ofUri "http://u@Bücher.de:80/x" = Destination.of "http" "Bücher.de"
-/

namespace ProxyRouting.Destination

/-- The mark between a scheme and an authority. -/
def authorityMark : List Char := "://".toList

/-- What ends an authority as it is written. -/
def isDelimiter (c : Char) : Bool :=
  c == '/' || c == '?' || c == '#'

def upToDelimiter (s : List Char) : List Char :=
  s.takeWhile fun c => !isDelimiter c

def withoutBrackets (host : List Char) : List Char :=
  (Text.between? '[' ']' host).getD host

/-- An authority without user information. -/
def withoutUserInfo (authority : List Char) : List Char :=
  match Text.cutLast? '@' authority with
  | some (_, rest) => rest
  | none => authority

/-- Host and port without the port; one that ends in a bracket has none. -/
def withoutPort (hostPort : List Char) : List Char :=
  if hostPort.getLast? == some ']' then hostPort
  else
    match Text.cutLast? ':' hostPort with
    | some (host, _) => host
    | none => hostPort

/-- The host of an authority as it is written. -/
def writtenHost (authority : List Char) : List Char :=
  withoutBrackets (withoutPort (withoutUserInfo authority))

def nonEmpty (s : List Char) : Option (List Char) :=
  if s.isEmpty then none else some s

/-- The host that a text has after the first `://`, if any. -/
def hostAsWritten? (uri : List Char) : Option (List Char) := do
  let (_, rest) ← Text.cutAt? authorityMark uri
  nonEmpty (writtenHost (upToDelimiter rest))

/-- The scheme of a text that may not be a URL. -/
def schemeOf (url? : Option Url) (uri : List Char) : List Char :=
  match url? with
  | some url => url.scheme
  | none => ((Text.cutAt? authorityMark uri).map Prod.fst).getD []

def hostOf (url? : Option Url) (uri : List Char) : List Char :=
  ((hostAsWritten? uri).or do nonEmpty (withoutBrackets (← (← url?).hostText?))).getD []

def ofUri (uri : String) : Except Error Destination :=
  let url? := (Url.parse uri.toList).toOption
  of (String.ofList (schemeOf url? uri.toList)) (String.ofList (hostOf url? uri.toList))

end ProxyRouting.Destination
