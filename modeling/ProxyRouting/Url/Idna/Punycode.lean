import ProxyRouting.Text.Cut

/-!
# Punycode

A label with characters beyond ASCII is written as its ASCII characters, a hyphen, and digits in
base 36.  The digits tell, for each of the other characters in rising order, how far from the last
one it is put in; the weights of the digits adapt to the size of the numbers before.
-/

namespace ProxyRouting.Idna.Punycode

/-! ## Digits -/

def digitChar (d : Nat) : Char :=
  if d < 26 then Char.ofNat (0x61 + d) else Char.ofNat (0x30 + (d - 26))

def digitValue? (c : Char) : Option Nat :=
  if 'a' ≤ c && c ≤ 'z' then some (c.toNat - 0x61)
  else if 'A' ≤ c && c ≤ 'Z' then some (c.toNat - 0x41)
  else if c.isDigit then some (c.toNat - 0x30 + 26)
  else none

/-- A digit below the threshold of its place is the last one. -/
def threshold (place bias : Nat) : Nat :=
  min 26 (max 1 (place - bias))

theorem threshold_pos (place bias : Nat) : 0 < threshold place bias := by
  unfold threshold; omega

/-- Divides by 35 down to a bound; gives what is left and 36 for each division. -/
def scaleDown (delta bias : Nat) : Nat × Nat :=
  if 455 < delta then scaleDown (delta / 35) (bias + 36) else (delta, bias)
termination_by delta
decreasing_by omega

/-- The bias after a number, when so many characters are in place. -/
def adapt (delta count : Nat) (isFirst : Bool) : Nat :=
  let delta := if isFirst then delta / 700 else delta / 2
  let (delta, bias) := scaleDown (delta + delta / count) 0
  bias + 36 * delta / (delta + 38)

/-! ## Encoding -/

def encodeNumber (bias place n : Nat) : List Char :=
  let t := threshold place bias
  if n < t then [digitChar n]
  else digitChar (t + (n - t) % (36 - t)) :: encodeNumber bias (place + 36) ((n - t) / (36 - t))
termination_by n
decreasing_by
  have h := threshold_pos place bias
  have := Nat.div_le_self (n - threshold place bias) (36 - threshold place bias)
  omega

structure Encoder where
  digits : List Char
  delta : Nat
  bias : Nat
  done : Nat

/-- Passes over one character of the label while the characters `code` are put in. -/
def Encoder.step (basic code : Nat) (e : Encoder) (c : Nat) : Encoder :=
  if c < code then { e with delta := e.delta + 1 }
  else if c == code then
    ⟨e.digits ++ encodeNumber e.bias 36 e.delta, 0, adapt e.delta (e.done + 1) (e.done == basic),
      e.done + 1⟩
  else e

/-- Puts in the given characters in their order; `next` is the least that may come. -/
def encodeCodes (basic : Nat) (label : List Nat) : List Nat → Nat → Encoder → Encoder
  | [], _, e => e
  | code :: codes, next, e =>
    let e := { e with delta := e.delta + (code - next) * (e.done + 1) }
    let e := label.foldl (Encoder.step basic code) e
    encodeCodes basic label codes (code + 1) { e with delta := e.delta + 1 }

def encode (label : List Char) : List Char :=
  let ascii := label.filter fun c => c.toNat < 0x80
  let others := ((label.map Char.toNat).filter (0x80 ≤ ·)).mergeSort.eraseDups
  let e := encodeCodes ascii.length (label.map Char.toNat) others 0x80 ⟨[], 0, 72, ascii.length⟩
  (if ascii.isEmpty then [] else ascii ++ ['-']) ++ e.digits

/-! ## Decoding -/

/-- Numbers have to stay below this. -/
def numberLimit : Nat := 0x100000000

/-- Reads a number that is added to `n`, from a place of the given weight on. -/
def decodeNumber (bias place weight n : Nat) : List Char → Option (Nat × List Char)
  | [] => none
  | c :: rest => do
    let d ← digitValue? c
    let n := n + d * weight
    let t := threshold place bias
    if numberLimit ≤ n then none
    else if d < t then some (n, rest)
    else if numberLimit ≤ weight * (36 - t) then none
    else decodeNumber bias (place + 36) (weight * (36 - t)) n rest

/-- Puts in characters until the digits are used up; `code` is the last one and `index` its place.
Every number takes a digit. -/
def decodeCodes (fuel code index bias : Nat) (label : List Char) (s : List Char) :
    Option (List Char) :=
  match fuel, s with
  | _, [] => some label
  | 0, _ => none
  | fuel + 1, s => do
    let (n, rest) ← decodeNumber bias 36 1 index s
    let count := label.length + 1
    let code := code + n / count
    if code < 0xD800 || (0xDFFF < code && code < 0x110000) then
      decodeCodes fuel code (n % count + 1) (adapt (n - index) count (index == 0))
        (label.insertIdx (n % count) (Char.ofNat code)) rest
    else none

/-- The label that a text of ASCII characters stands for. -/
def decode (s : List Char) : Option (List Char) :=
  match Text.cutLast? '-' s with
  | some (ascii, digits) =>
    if ascii.isEmpty then none else decodeCodes digits.length 0x80 0 72 ascii digits
  | none => decodeCodes s.length 0x80 0 72 [] s

end ProxyRouting.Idna.Punycode
