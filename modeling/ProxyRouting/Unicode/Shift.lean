import ProxyRouting.Unicode.CodeSet

/-!
# Maps between code points, as tables

A `Shift` moves every `step`-th code point of a stretch by the same distance, which is how most
maps of letters look.  What is left is listed one by one, with one or more targets: an `Expansion`.

Both are kept as text: a shift is four hexadecimal numbers (first code point, how many, step,
signed distance), an expansion two words (code point; targets joined by full stops).
-/

namespace ProxyRouting.Unicode

structure Shift where
  first : Nat
  count : Nat
  step : Nat
  distance : Int
  deriving Repr, Inhabited

namespace Shift

def isSource (s : Shift) (n : Nat) : Bool :=
  s.first ≤ n && n ≤ s.first + (s.count - 1) * s.step && (n - s.first) % s.step == 0

def target (s : Shift) (n : Nat) : Nat :=
  (n + s.distance).toNat

def source (s : Shift) (n : Nat) : Nat :=
  (n - s.distance).toNat

/-- Whether some code point is moved to this one. -/
def isTarget (s : Shift) (n : Nat) : Bool :=
  s.isSource (s.source n) && s.target (s.source n) == n

/-- The code points that are moved. -/
def sources (s : Shift) : List Nat :=
  (List.range s.count).map fun k => s.first + k * s.step

def signedHex : List Char → Int
  | '-' :: cs => -(CodeSet.hexNumber cs : Int)
  | cs => CodeSet.hexNumber cs

def ofWords : List (List Char) → List Shift
  | first :: count :: step :: distance :: rest =>
    ⟨CodeSet.hexNumber first, CodeSet.hexNumber count, CodeSet.hexNumber step,
      signedHex distance⟩ :: ofWords rest
  | _ => []

def decode (text : String) : List Shift :=
  ofWords (CodeSet.words text)

/-- Where the first shift that applies moves a code point. -/
def lookup (shifts : List Shift) (n : Nat) : Option Nat :=
  (shifts.find? fun s => s.isSource n).map fun s => s.target n

end Shift

/-- A code point and what stands for it. -/
abbrev Expansion := Nat × List Nat

namespace Expansion

/-- The pieces of a word between full stops, as numbers. -/
def targets (word : List Char) : List Nat :=
  (word.splitOn '.').map CodeSet.hexNumber

def ofWords : List (List Char) → List Expansion
  | code :: word :: rest => (CodeSet.hexNumber code, targets word) :: ofWords rest
  | _ => []

def decode (text : String) : List Expansion :=
  ofWords (CodeSet.words text)

def lookup (table : List Expansion) (n : Nat) : Option (List Nat) :=
  (table.find? fun e => e.1 == n).map Prod.snd

end Expansion

end ProxyRouting.Unicode
