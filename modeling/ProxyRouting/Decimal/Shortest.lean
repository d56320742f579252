/-!
# The shortest decimal of a floating-point number

Of all decimals that are read back as the same number, the one with the fewest digits is shown and,
of those, the nearest to the number.

A finite number is `m · 2 ^ q`; the reals that are rounded to it form an interval around it, closed
if `m` is even.  For one digit, two digits, and so on up to seventeen, the two neighbours of the
number on that decimal grid are tried, in exact arithmetic; the first grid with a hit is taken.
-/

namespace ProxyRouting.Decimal

/-- Digits and the power of ten that the last of them counts. -/
structure Digits where
  digits : Nat
  exponent : Int
  deriving Repr, DecidableEq

/-- A positive binary number `mantissa · 2 ^ exponent`, and whether the gap below it is half as wide
as the one above. -/
structure Binary where
  mantissa : Nat
  exponent : Int
  narrowBelow : Bool
  deriving Repr, DecidableEq

namespace Binary

/-- The first bit of a double's significand, which is not stored. -/
def hiddenBit : Nat := 0x10000000000000

/-- The parts of a finite positive double, from its bits without the sign. -/
def ofBits (bits : Nat) : Binary :=
  let fraction : Nat := bits % hiddenBit
  let power : Nat := bits / hiddenBit
  if power == 0 then ⟨fraction, -1074, false⟩
  else ⟨hiddenBit + fraction, (power : Int) - 1075, fraction == 0 && 1 < power⟩

/-- Numerator and denominator of a quarter of the last place. -/
def quarter (b : Binary) : Nat × Nat :=
  (Nat.pow 2 (b.exponent - 2).toNat, Nat.pow 2 (2 - b.exponent).toNat)

/-- The least power of ten above the number, as a search among `fuel` candidates. -/
def magnitudeFrom (num den : Nat) : Nat → Int → Int
  | 0, k => k
  | fuel + 1, k =>
    if num * Nat.pow 10 (-k).toNat < den * Nat.pow 10 k.toNat then k
    else magnitudeFrom num den fuel (k + 1)

/-- The candidate of the grid of `10 ^ p` that lies in the interval, the nearer of two. -/
def onGrid? (b : Binary) (p : Int) : Option Nat :=
  let (num, den) := b.quarter
  let scale (n : Nat) := n * num * Nat.pow 10 (-p).toNat
  let unit := den * Nat.pow 10 p.toNat
  let value := scale (4 * b.mantissa)
  let low := scale (4 * b.mantissa - if b.narrowBelow then 1 else 2)
  let high := scale (4 * b.mantissa + 2)
  let isInside (d : Nat) : Bool :=
    if b.mantissa % 2 == 0 then low ≤ d * unit && d * unit ≤ high
    else low < d * unit && d * unit < high
  let d := value / unit
  let below := isInside d && d != 0
  let above := isInside (d + 1)
  if below && above then
    let left := value - d * unit
    let right := (d + 1) * unit - value
    some (if left < right || (left == right && d % 2 == 0) then d else d + 1)
  else if below then some d
  else if above then some (d + 1)
  else none

def shortest (b : Binary) : Digits :=
  let (num, den) := b.quarter
  let magnitude := magnitudeFrom (4 * b.mantissa * num) den 640 (-325)
  let tried := (List.range 17).findSome? fun (n : Nat) =>
    let p := magnitude - 1 - (n : Int)
    (b.onGrid? p).map fun d =>
      (if d == Nat.pow 10 (n + 1) then ⟨1, p + n + 1⟩ else ⟨d, p⟩ : Digits)
  tried.getD ⟨b.mantissa, b.exponent⟩

end Binary

/-- How a decimal is written: up to which magnitudes in full, and with what exponent beyond. -/
structure Format where
  leastFixed : Int
  mostFixed : Int
  exponentDigits : Nat

/-- The text of a decimal. -/
def Format.write (f : Format) (d : Digits) : String :=
  let digits := Nat.toDigits 10 d.digits
  let point : Int := digits.length + d.exponent
  let zeros (n : Int) := List.replicate n.toNat '0'
  let chars :=
    if f.leastFixed < point && point ≤ f.mostFixed then
      if 0 ≤ d.exponent then digits ++ zeros d.exponent ++ ['.', '0']
      else if 0 < point then digits.take point.toNat ++ '.' :: digits.drop point.toNat
      else '0' :: '.' :: (zeros (-point) ++ digits)
    else
      let power := Nat.toDigits 10 (point - 1).natAbs
      let tail := if digits.length ≤ 1 then [] else '.' :: digits.drop 1
      digits.take 1 ++ tail ++ 'e' :: (if point - 1 < 0 then '-' else '+') ::
        (zeros (f.exponentDigits - power.length) ++ power)
  String.ofList chars

end ProxyRouting.Decimal
