import ProxyRouting.Json.Error
import ProxyRouting.Text.Digit

/-!
# Strings

Reading and writing strings in quotes.  What is written is read back:

    readText (quoted s).tail = ok (s, [])

A character above the basic plane may be written as two escapes, a surrogate pair.
-/

namespace ProxyRouting.Json

open Text (hexValue?)

/-! ## Reading -/

/-- Whether a text is at least so many bytes long. -/
def hasBytes : Nat → List Char → Bool
  | 0, _ => true
  | _ + 1, [] => false
  | n + 1, c :: rest => hasBytes (n + 1 - c.utf8Size) rest

/-- Reads four hexadecimal digits. -/
def readHex (s : List Char) : Except Error (Nat × List Char) :=
  if !hasBytes 4 s then .error .endInString
  else
    match s with
    | a :: b :: c :: d :: rest =>
      match hexValue? a, hexValue? b, hexValue? c, hexValue? d with
      | some a, some b, some c, some d => .ok (((a * 16 + b) * 16 + c) * 16 + d, rest)
      | _, _, _, _ => .error .invalidEscape
    | _ => .error .invalidEscape

/-- Reads an escape by number, after `\u`. -/
def readUnicodeEscape (s : List Char) : Except Error (Char × List Char) := do
  let (n, s) ← readHex s
  if 0xDC00 ≤ n && n ≤ 0xDFFF then .error .loneSurrogate
  else if n < 0xD800 || 0xDBFF < n then return (Char.ofNat n, s)
  else
    match s with
    | [] => .error .endInString
    | ['\\'] => .error .endInString
    | '\\' :: 'u' :: rest =>
      let (m, rest) ← readHex rest
      if m < 0xDC00 || 0xDFFF < m then .error .loneSurrogate
      else return (Char.ofNat ((n - 0xD800) * 0x400 + (m - 0xDC00) + 0x10000), rest)
    | _ => .error .hexEscapeEnd

/-- The characters that have an escape of one letter. -/
def simpleEscape? : Char → Option Char
  | '"' => some '"'
  | '\\' => some '\\'
  | '/' => some '/'
  | 'b' => some '\x08'
  | 'f' => some '\x0c'
  | 'n' => some '\n'
  | 'r' => some '\r'
  | 't' => some '\t'
  | _ => none

/-- Reads an escape after its backslash. -/
def readEscape : List Char → Except Error (Char × List Char)
  | [] => .error .endInString
  | 'u' :: rest => readUnicodeEscape rest
  | c :: rest =>
    match simpleEscape? c with
    | some d => .ok (d, rest)
    | none => .error .invalidEscape

/-- Reads a string after its opening quote and the characters that are done, last first.  A step
takes at least one character, so `clock`, which loses one a step, may start as the text itself. -/
def readTextFrom (clock done s : List Char) : Except Error (String × List Char) :=
  match clock, s with
  | _, [] | [], _ => .error .endInString
  | _ :: clock, c :: rest =>
    if c == '"' then .ok (String.ofList done.reverse, rest)
    else if c == '\\' then
      match readEscape rest with
      | .error e => .error e
      | .ok (c, rest) => readTextFrom clock (c :: done) rest
    else if c.toNat < 0x20 then .error .controlCharacter
    else readTextFrom clock (c :: done) rest

def readText (s : List Char) : Except Error (String × List Char) :=
  readTextFrom s [] s

/-- Passes over an escape after its backslash.  The number of one by number is not looked at. -/
def skipEscape : List Char → Except Error (List Char)
  | [] => .error .endInString
  | 'u' :: rest => (readHex rest).map Prod.snd
  | c :: rest => if (simpleEscape? c).isSome then .ok rest else .error .invalidEscape

/-- Passes over a string after its opening quote, in steps that `clock` counts as above. -/
def skipTextFrom (clock s : List Char) : Except Error (List Char) :=
  match clock, s with
  | _, [] | [], _ => .error .endInString
  | _ :: clock, c :: rest =>
    if c == '"' then .ok rest
    else if c == '\\' then
      match skipEscape rest with
      | .error e => .error e
      | .ok rest => skipTextFrom clock rest
    else if c.toNat < 0x20 then .error .controlCharacter
    else skipTextFrom clock rest

def skipText (s : List Char) : Except Error (List Char) :=
  skipTextFrom s s

/-! ## Writing -/

def hexChar (n : Nat) : Char :=
  Nat.digitChar n

/-- A character inside quotes: quotes, backslashes and controls are escaped. -/
def quotedChar (c : Char) : List Char :=
  match c with
  | '"' => ['\\', '"']
  | '\\' => ['\\', '\\']
  | '\x08' => ['\\', 'b']
  | '\x0c' => ['\\', 'f']
  | '\n' => ['\\', 'n']
  | '\r' => ['\\', 'r']
  | '\t' => ['\\', 't']
  | _ =>
    if c.toNat < 0x20 then
      ['\\', 'u', '0', '0', hexChar (c.toNat / 16), hexChar (c.toNat % 16)]
    else [c]

def quoted (s : String) : List Char :=
  '"' :: s.toList.flatMap quotedChar ++ ['"']

end ProxyRouting.Json
