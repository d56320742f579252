/-!
# Base64

Three bytes are written as four digits of six bits each; a last group of one or two bytes is filled
up with equals signs.  Reading accepts exactly what writing produces:

    decode s = some bytes ↔ s = encode bytes
-/

namespace ProxyRouting.Text.Base64

/-- The sixty-four digits in their order. -/
def alphabet : List Char :=
  "ABCDEFGHIJKLMNOPQRSTUVWXYZabcdefghijklmnopqrstuvwxyz0123456789+/".toList

def digit (n : Nat) : Char :=
  alphabet.getD n '='

def digitValue? (c : Char) : Option Nat :=
  alphabet.idxOf? c

/-! ## Writing -/

def encode : List UInt8 → List Char
  | a :: b :: c :: rest =>
    let n := a.toNat * 65536 + b.toNat * 256 + c.toNat
    digit (n / 262144) :: digit (n / 4096 % 64) :: digit (n / 64 % 64) :: digit (n % 64) ::
      encode rest
  | [a, b] =>
    let n := a.toNat * 1024 + b.toNat * 4
    [digit (n / 4096), digit (n / 64 % 64), digit (n % 64), '=']
  | [a] =>
    let n := a.toNat * 16
    [digit (n / 64), digit (n % 64), '=', '=']
  | [] => []

/-! ## Reading -/

/-- The bytes of a full group, from its digits. -/
def fullGroup (p q r s : Nat) : List UInt8 :=
  let n := ((p * 64 + q) * 64 + r) * 64 + s
  [UInt8.ofNat (n / 65536), UInt8.ofNat (n / 256 % 256), UInt8.ofNat (n % 256)]

/-- The bytes of a last group; bits that no byte takes up have to be zero. -/
def lastGroup? (a b c d : Char) : Option (List UInt8) := do
  let p ← digitValue? a
  let q ← digitValue? b
  if d != '=' then
    return fullGroup p q (← digitValue? c) (← digitValue? d)
  else if c != '=' then
    let n := (p * 64 + q) * 64 + (← digitValue? c)
    if n % 4 == 0 then some [UInt8.ofNat (n / 1024), UInt8.ofNat (n / 4 % 256)] else none
  else
    let n := p * 64 + q
    if n % 16 == 0 then some [UInt8.ofNat (n / 16)] else none

def decode : List Char → Option (List UInt8)
  | [] => some []
  | [a, b, c, d] => lastGroup? a b c d
  | a :: b :: c :: d :: rest => do
    let group := fullGroup (← digitValue? a) (← digitValue? b) (← digitValue? c) (← digitValue? d)
    return group ++ (← decode rest)
  | _ => none

end ProxyRouting.Text.Base64
