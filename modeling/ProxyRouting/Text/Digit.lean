/-!
# Digits

The values of digits and numbers in bases up to sixteen.

    number? 16 "fF".toList = some 255,  number? 8 "8".toList = none,  number? b [] = some 0
-/

namespace ProxyRouting.Text

/-- The value of a hexadecimal digit. -/
def hexValue? (c : Char) : Option Nat :=
  if c.isDigit then some (c.toNat - 48)
  else if 'a' ≤ c && c ≤ 'f' then some (c.toNat - 87)
  else if 'A' ≤ c && c ≤ 'F' then some (c.toNat - 55)
  else none

/-- The value of a digit in a base. -/
def digitValue? (base : Nat) (c : Char) : Option Nat :=
  (hexValue? c).filter (· < base)

/-- The number that some digits write, if all of them are digits of the base. -/
def number? (base : Nat) (digits : List Char) : Option Nat :=
  digits.foldlM (fun n c => (digitValue? base c).map fun d => n * base + d) 0

end ProxyRouting.Text
