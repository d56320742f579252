import ProxyRouting.Text.Digit

/-!
# Percent-encoding

A byte may be written as a percent sign and two hexadecimal digits.  A percent sign without them
stands for itself.

    decode (encode p s) = some s        (p true of '%', as in encodeAll)
-/

namespace ProxyRouting.Url.Percent

def bytes (s : List Char) : List UInt8 :=
  (String.ofList s).toUTF8.data.toList

/-! ## Decoding -/

/-- The value of a byte that is a hexadecimal digit. -/
def hexValue? (b : UInt8) : Option Nat :=
  Text.hexValue? (Char.ofNat b.toNat)

def decodeBytes : List UInt8 → List UInt8
  | 37 :: a :: b :: rest =>
    match hexValue? a, hexValue? b with
    | some x, some y => UInt8.ofNat (x * 16 + y) :: decodeBytes rest
    | _, _ => 37 :: decodeBytes (a :: b :: rest)
  | b :: rest => b :: decodeBytes rest
  | [] => []

/-- The decoded text, if its bytes are one. -/
def decode? (s : List Char) : Option (List Char) :=
  (String.fromUTF8? ⟨(decodeBytes (bytes s)).toArray⟩).map String.toList

/-! ## Encoding -/

def hexDigit (b : UInt8) : Char :=
  if b < 10 then Char.ofNat (48 + b.toNat) else Char.ofNat (55 + b.toNat)

def encodeByte (b : UInt8) : List Char :=
  ['%', hexDigit (b / 16), hexDigit (b % 16)]

/-- Encodes the characters with a property. -/
def encode (p : Char → Bool) (s : List Char) : List Char :=
  s.flatMap fun c => if p c then (bytes [c]).flatMap encodeByte else [c]

/-- Controls, and all that is not ASCII. -/
def isControl (c : Char) : Bool :=
  c.toNat < 0x20 || 0x7F ≤ c.toNat

/-- What cannot stand in a username or password as it is. -/
def isUserInfoMark (c : Char) : Bool :=
  isControl c || " \"<>\x60#?\x7b\x7d/:;=@[\\]^|".toList.contains c

/-- All but letters, digits and four marks that no syntax uses. -/
def isReserved (c : Char) : Bool :=
  !(c.isAlphanum || "-._~".toList.contains c)

/-- Encodes everything that any part of a URL could take for syntax. -/
def encodeAll (s : List Char) : List Char :=
  encode isReserved s

end ProxyRouting.Url.Percent
