import ProxyRouting.Decimal.Shortest
import ProxyRouting.Json.Error
import ProxyRouting.Text.Digit

/-!
# Numbers

A number is an integer if it is written without fraction and exponent and fits 64 bits; any other
is a double.  The double is the significand, as far as it fits 64 bits, times or divided by a power
of ten.
-/

namespace ProxyRouting.Json

inductive Number
  | integer (n : Int)
  | double (f : Float)

def maxSignificand : Nat := 0xFFFFFFFFFFFFFFFF

/-- The bit of a double that holds its sign, and the least integer below zero without its sign. -/
def signBit : Nat := 0x8000000000000000

/-- Doubles are shown in full from five zeros after the point up to sixteen digits before it. -/
def doubleFormat : Decimal.Format := ⟨-5, 16, 2⟩

/-- The text of a finite double. -/
def doubleText (f : Float) : String :=
  let bits := f.toBits.toNat
  let sign := if signBit ≤ bits then "-" else ""
  let magnitude := bits % signBit
  if magnitude == 0 then sign ++ "0.0"
  else sign ++ doubleFormat.write (Decimal.Binary.ofBits magnitude).shortest

def Number.found : Number → Found
  | integer n => .integer n
  | double f => .decimal (doubleText f)

/-! ## Value -/

/-- `significand · 10 ^ exponent`, in steps that a power of ten fits. -/
def scaled (fuel : Nat) (f : Float) (exponent : Int) : Except Error Float :=
  match fuel with
  | 0 => .ok f
  | fuel + 1 =>
    if exponent.natAbs ≤ 308 then
      let power := Float.ofScientific 1 false exponent.natAbs
      if 0 ≤ exponent then
        if (f * power).isInf then .error .numberOutOfRange else .ok (f * power)
      else .ok (f / power)
    else if f == 0.0 then .ok f
    else if 0 ≤ exponent then .error .numberOutOfRange
    else scaled fuel (f / Float.ofScientific 1 false 308) (exponent + 308)

def double (negative : Bool) (significand : Nat) (exponent : Int) : Except Error Number := do
  let f ← scaled 12 (Float.ofNat significand) exponent
  return .double (if negative then -f else f)

/-- An integer, or a double where it does not fit; zero with a sign is a double as well. -/
def whole (negative : Bool) (n : Nat) : Number :=
  if !negative then .integer n
  else if n == 0 || signBit < n then .double (-(Float.ofNat n))
  else .integer (-n)

/-! ## Reading -/

def digit? (c : Char) : Option Nat :=
  Text.digitValue? 10 c

/-- Takes up digits while they fit; gives the significand, how many were taken, and the rest. -/
def takeDigits (significand taken : Nat) : List Char → Nat × Nat × List Char
  | [] => (significand, taken, [])
  | c :: rest =>
    match digit? c with
    | none => (significand, taken, c :: rest)
    | some d =>
      if maxSignificand < significand * 10 + d then (significand, taken, c :: rest)
      else takeDigits (significand * 10 + d) (taken + 1) rest

def isDigitNext : List Char → Bool
  | c :: _ => c.isDigit
  | [] => false

/-- Reads the digits of an exponent; `none` if they do not fit 32 bits. -/
def takeExponent (value : Nat) : List Char → Option Nat × List Char
  | [] => (some value, [])
  | c :: rest =>
    match digit? c with
    | none => (some value, c :: rest)
    | some d =>
      if 0x80000000 ≤ value * 10 + d then (none, rest) else takeExponent (value * 10 + d) rest

/-- Reads an exponent after its letter. -/
def readExponent (negative : Bool) (significand : Nat) (start : Int) (s : List Char) :
    Except Error (Number × List Char) :=
  let (isDown, s) :=
    match s with
    | '+' :: rest => (false, rest)
    | '-' :: rest => (true, rest)
    | _ => (false, s)
  match s with
  | [] => .error .endInValue
  | c :: rest =>
    match digit? c with
    | none => .error .invalidNumber
    | some d =>
      match takeExponent d rest with
      | (none, rest) =>
        if significand != 0 && !isDown then .error .numberOutOfRange
        else .ok (.double (if negative then -0.0 else 0.0), rest.dropWhile Char.isDigit)
      | (some e, rest) => do
        return (← double negative significand (if isDown then start - e else start + e), rest)

/-- Reads what may follow the digits: an exponent or nothing. -/
def readScale (negative : Bool) (significand : Nat) (start : Int) (s : List Char) :
    Except Error (Number × List Char) :=
  match s with
  | 'e' :: rest | 'E' :: rest => readExponent negative significand start rest
  | _ => do return (← double negative significand start, s)

/-- Reads a fraction after its point. -/
def readFraction (negative : Bool) (significand : Nat) (start : Int) (s : List Char) :
    Except Error (Number × List Char) :=
  if !isDigitNext s then .error (if s.isEmpty then .endInValue else .invalidNumber)
  else
    let (significand, taken, rest) := takeDigits significand 0 s
    readScale negative significand (start - taken) (rest.dropWhile Char.isDigit)

/-- Reads a number after its sign. -/
def readNumber (negative : Bool) (s : List Char) : Except Error (Number × List Char) :=
  let continued (significand : Nat) (rest : List Char) : Except Error (Number × List Char) :=
    if isDigitNext rest then
      let start := (rest.takeWhile Char.isDigit).length
      match rest.dropWhile Char.isDigit with
      | '.' :: rest => readFraction negative significand start rest
      | rest => readScale negative significand start rest
    else
      match rest with
      | '.' :: rest => readFraction negative significand 0 rest
      | 'e' :: rest | 'E' :: rest => readExponent negative significand 0 rest
      | _ => .ok (whole negative significand, rest)
  match s with
  | [] => .error .endInValue
  | '0' :: rest => if isDigitNext rest then .error .invalidNumber else continued 0 rest
  | c :: rest =>
    match digit? c with
    | none => .error .invalidNumber
    | some d =>
      let (significand, _, rest) := takeDigits d 0 rest
      continued significand rest

end ProxyRouting.Json
