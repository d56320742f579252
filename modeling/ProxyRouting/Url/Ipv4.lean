import ProxyRouting.Text.Cut
import ProxyRouting.Text.Digit

/-!
# IPv4 addresses

One to four numbers with dots between them; the last takes up all bytes that the others leave.
Numbers may be decimal, octal after `0` and hexadecimal after `0x`.

    parse? "127.1" = parse? "0x7f.0.0.01" = some 127.0.0.1
-/

namespace ProxyRouting.Url

open Text (number?)

structure Ipv4 where
  address : UInt32
  deriving Repr, DecidableEq, Inhabited

namespace Ipv4

/-! ## Reading -/

/-- One of the numbers. -/
def part? (s : List Char) : Option Nat :=
  match s with
  | [] => none
  | '0' :: 'x' :: digits | '0' :: 'X' :: digits => number? 16 digits
  | '0' :: c :: digits => number? 8 (c :: digits)
  | digits => number? 10 digits

/-- The parts between dots; an empty one at the end does not count. -/
def parts (s : List Char) : List (List Char) :=
  let all := Text.splitAt '.' s
  if all.getLast? == some [] then all.dropLast else all

/-- Whether a name has to be an address, because its last part is a number. -/
def endsInNumber (s : List Char) : Bool :=
  match (parts s).getLast? with
  | none => false
  | some last => (!last.isEmpty && last.all Char.isDigit) || (part? last).isSome

/-- Numbers before the last are bytes; the last fills what is left of `room` bytes. -/
def assemble? (room : Nat) : List Nat → Option Nat
  | [] => none
  | [n] => if n < Nat.pow 256 room then some n else none
  | n :: rest =>
    match room with
    | 0 => none
    | room + 1 => if n < 256 then (assemble? room rest).map (n * Nat.pow 256 room + ·) else none

def parse? (s : List Char) : Option Ipv4 := do
  let numbers ← (parts s).mapM part?
  if 4 < numbers.length then none
  else return ⟨UInt32.ofNat (← assemble? 4 numbers)⟩

/-! ## Writing -/

def text (a : Ipv4) : List Char :=
  let n := a.address.toNat
  ['.'].intercalate ([n / 16777216, n / 65536 % 256, n / 256 % 256, n % 256].map (Nat.toDigits 10))

end Ipv4

end ProxyRouting.Url
