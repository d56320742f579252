import ProxyRouting.Url.Host

/-!
# URLs

A URL is read as far as its authority: scheme, username, password, host and port.  What follows can
make no URL invalid, and is not looked at but for drive letters in the paths of files.

The schemes fall into three kinds.  A special one always has a host, after any number of slashes,
and takes backslashes for slashes; a file has a host that may be empty; of any other scheme only two
slashes make what follows an authority.
-/

namespace ProxyRouting

structure Url where
  scheme : List Char
  /-- Percent-encoded; empty where there is none. -/
  username : List Char
  /-- Percent-encoded; empty where there is none. -/
  password : List Char
  host : Option Url.Host
  /-- Left out where it is the default of the scheme. -/
  port : Option UInt16
  deriving Repr, DecidableEq

namespace Url

/-! ## Schemes -/

/-- The port that a scheme has unless told otherwise. -/
def defaultPort? (scheme : List Char) : Option UInt16 :=
  if scheme = "http".toList || scheme = "ws".toList then some 80
  else if scheme = "https".toList || scheme = "wss".toList then some 443
  else if scheme = "ftp".toList then some 21
  else none

def isSpecial (scheme : List Char) : Bool :=
  (defaultPort? scheme).isSome

def isSchemeChar (c : Char) : Bool :=
  c.isAlphanum || c == '+' || c == '-' || c == '.'

/-- They are between `+` and `z`. -/
theorem toNat_of_isSchemeChar {c : Char} (h : isSchemeChar c = true) :
    43 ≤ c.toNat ∧ c.toNat ≤ 122 := by
  have hupper (h : c.isUpper = true) : 65 ≤ c.toNat ∧ c.toNat ≤ 90 := of_decide_eq_true h
  have hlower (h : c.isLower = true) : 97 ≤ c.toNat ∧ c.toNat ≤ 122 :=
    (Bool.and_eq_true_iff.mp h).imp of_decide_eq_true of_decide_eq_true
  have hdigit (h : c.isDigit = true) : 48 ≤ c.toNat ∧ c.toNat ≤ 57 := Char.isDigit_iff_toNat.mp h
  have hcases : (((c.isUpper = true ∨ c.isLower = true) ∨ c.isDigit = true) ∨ c = '+') ∨ c = '-' ∨
      c = '.' := by
    change (((c.isUpper || c.isLower) || c.isDigit) || c == '+' || c == '-' || c == '.') = true at h
    simpa [or_assoc] using h
  rcases hcases with (((h | h) | h) | rfl) | rfl | rfl
  · have := hupper h
    omega
  · have := hlower h
    omega
  · have := hdigit h
    omega
  all_goals decide

/-- The scheme in lower case, and what follows its colon. -/
def splitScheme? (s : List Char) : Option (List Char × List Char) :=
  match s with
  | c :: _ =>
    if !c.isAlpha then none
    else
      match s.dropWhile isSchemeChar with
      | ':' :: rest => some ((s.takeWhile isSchemeChar).map Char.toLower, rest)
      | _ => none
  | [] => none

/-! ## Authority -/

/-- What ends an authority. -/
def isAuthorityEnd (special : Bool) (c : Char) : Bool :=
  c == '/' || c == '?' || c == '#' || (special && c == '\\')

/-- Cuts off the host, up to a colon outside of brackets. -/
def splitHost (inBrackets : Bool) : List Char → List Char × List Char
  | [] => ([], [])
  | c :: rest =>
    if c == ':' && !inBrackets then ([], c :: rest)
    else
      let inBrackets := if c == '[' then true else if c == ']' then false else inBrackets
      let (host, rest) := splitHost inBrackets rest
      (c :: host, rest)

/-- The port of the digits after a colon; a backslash ends them. -/
def readPort (scheme s : List Char) : Except Fault (Option UInt16) :=
  let digits := s.takeWhile (· != '\\')
  match (Text.number? 10 digits).filter (· < 65536) with
  | none => .error .port
  | some n =>
    let port := UInt16.ofNat n
    .ok (if digits.isEmpty || defaultPort? scheme == some port then none else some port)

/-- Username and password, encoded. -/
def readUserInfo (s : List Char) : List Char × List Char :=
  let encode := Percent.encode Percent.isUserInfoMark
  match Text.cut? ':' s with
  | some (user, pass) => (encode user, encode pass)
  | none => (encode s, [])

/-- The host of an authority; none if it is empty and may be. -/
def readHost (special : Bool) (s : List Char) : Except Fault (Option Host) :=
  if s.isEmpty then
    if special then .error .emptyHost else .ok none
  else if special then (Host.parse s).map some
  else (Host.parseOpaque s).map some

/-- Reads an authority; `isLast` says whether the text ends after it. -/
def readAuthority (scheme : List Char) (isLast : Bool) (s : List Char) : Except Fault Url := do
  let special := isSpecial scheme
  let (info, hostPort) := match Text.cutLast? '@' s with
    | some (info, rest) => (some info, rest)
    | none => (none, s)
  if info == some [] && hostPort.isEmpty && !isLast then throw .emptyHost
  let (hostText, portText) := splitHost false hostPort
  let host ← readHost special hostText
  let (username, password) := readUserInfo (info.getD [])
  if host.isNone && !(portText.isEmpty && username.isEmpty && password.isEmpty) then
    throw .emptyHost
  let port ← readPort scheme (portText.drop 1)
  return ⟨scheme, username, password, host, port⟩

/-! ## Files -/

def isSlash (c : Char) : Bool :=
  c == '/' || c == '\\'

def isDriveLetter : List Char → Bool
  | [c, mark] => c.isAlpha && (mark == ':' || mark == '|')
  | _ => false

/-- The segments of a path after its first slash, up to a query or fragment. -/
def segments (s : List Char) : List (List Char) :=
  let path := s.takeWhile fun c => !(c == '?' || c == '#')
  Text.splitAt '/' (path.map fun c => if c == '\\' then '/' else c)

/-- Whether a segment is one dot or two, which may be encoded. -/
def dots (n : Nat) (segment : List Char) : Bool :=
  let rec count : List Char → Option Nat
    | [] => some 0
    | '.' :: rest => (count rest).map (· + 1)
    | '%' :: '2' :: 'e' :: rest | '%' :: '2' :: 'E' :: rest => (count rest).map (· + 1)
    | _ => none
  count segment == some n

/-- Whether a drive letter stands at the root of a path, at depth `depth` of which we are. -/
def entersDrive (depth : Nat) : List (List Char) → Bool
  | [] => false
  | segment :: rest =>
    if dots 1 segment then entersDrive depth rest
    else if dots 2 segment then entersDrive (depth - 1) rest
    else (depth == 0 && isDriveLetter segment) || entersDrive (depth + 1) rest

/-- The host of a file; a drive letter in its place is a part of the path, and one that begins the
path takes the host away. -/
def readFileHost (s : List Char) : Except Fault (Option Host) :=
  let isEnd (c : Char) : Bool := isSlash c || c == '?' || c == '#'
  let text := s.takeWhile fun c => !isEnd c
  let path := s.dropWhile fun c => !isEnd c
  if text.isEmpty || isDriveLetter text then .ok none
  else do
    let host ← Host.parse text
    if host == .name "localhost".toList then return none
    else
      match path with
      | c :: rest => return if isSlash c && entersDrive 0 (segments rest) then none else some host
      | [] => return some host

def readFile (scheme s : List Char) : Except Fault Url := do
  let host ← match s with
    | a :: b :: rest => if isSlash a && isSlash b then readFileHost rest else .ok none
    | _ => .ok none
  return ⟨scheme, [], [], host, none⟩

/-! ## Reading -/

/-- Whether a character is a control or a space. -/
def isBlank (c : Char) : Bool :=
  c.toNat ≤ 0x20

/-- Drops blanks at both ends, and tabs and line breaks anywhere. -/
def stripped (s : List Char) : List Char :=
  let inner := ((s.dropWhile isBlank).reverse.dropWhile isBlank).reverse
  inner.filter fun c => !(c == '\t' || c == '\n' || c == '\r')

/-- Reads an authority up to its end. -/
def readHierarchy (scheme s : List Char) : Except Fault Url :=
  let isEnd := isAuthorityEnd (isSpecial scheme)
  let authority := s.takeWhile fun c => !isEnd c
  readAuthority scheme (s.dropWhile fun c => !isEnd c).isEmpty authority

def parse (s : List Char) : Except Fault Url :=
  match splitScheme? (stripped s) with
  | none => .error .noScheme
  | some (scheme, rest) =>
    if scheme = "file".toList then readFile scheme rest
    else if isSpecial scheme then readHierarchy scheme (rest.dropWhile isSlash)
    else
      match rest with
      | '/' :: '/' :: rest => readHierarchy scheme rest
      | _ => .ok ⟨scheme, [], [], none, none⟩

/-! ## Parts -/

def hostText? (u : Url) : Option (List Char) :=
  u.host.map Host.text

/-- The port, or the default of the scheme where it was left out. -/
def effectivePort? (u : Url) : Option UInt16 :=
  u.port.or (defaultPort? u.scheme)

end Url

end ProxyRouting
