import ProxyRouting.Regex.Meaning

/-!
# The size of an automaton

An expression is turned into two automata over bytes, one for each direction of reading, and is
refused if either takes more than `sizeLimit` bytes.  The sizes are computed here without building
anything: every state takes `stateBytes`, a choice between states four bytes more a branch, and a
range of bytes among others eight.

A character takes a state a byte.  A set within ASCII takes one state with a range each; any other
set takes, read backwards, one state for each distinct beginning of the byte sequences that it
consists of, which is what sharing the ends of sequences leaves.
-/

namespace ProxyRouting.Regex

open Unicode (CodeSet)

def stateBytes : Nat := 32

/-! ## Sets as sequences of bytes -/

/-- The bytes of a code point. -/
def utf8Bytes (n : Nat) : List Nat :=
  if n < 0x80 then [n]
  else if n < 0x800 then [0xC0 + n / 64, 0x80 + n % 64]
  else if n < 0x10000 then [0xE0 + n / 4096, 0x80 + n / 64 % 64, 0x80 + n % 64]
  else [0xF0 + n / 262144, 0x80 + n / 4096 % 64, 0x80 + n / 64 % 64, 0x80 + n % 64]

/-- The first place at which a range has to be divided, so that both parts are products of ranges
of bytes: its last code point of the first part. -/
def dividesAt? (first last : Nat) : Option Nat :=
  let length := [0x7F, 0x7FF, 0xFFFF].find? fun m => first ≤ m && m < last
  let tail (low : Nat) : Option Nat :=
    if first / (low + 1) == last / (low + 1) || last < 0x80 then none
    else if first % (low + 1) != 0 then some (first + low - first % (low + 1))
    else if last % (low + 1) != low then some (last - last % (low + 1) - 1)
    else none
  if first < 0xD800 && 0xDFFF < last then some 0xD7FF
  else length.or ([63, 4095, 262143].findSome? tail)

/-- The sequences of ranges of bytes that a range of code points consists of.  A range is divided
at most so many times on the way to each of them. -/
def byteSequences : Nat → Nat × Nat → List (List (Nat × Nat))
  | 0, _ => []
  | depth + 1, (first, last) =>
    if last < first then []
    else
      match dividesAt? first last with
      | some m => byteSequences depth (first, m) ++ byteSequences depth
          (if m == 0xD7FF && 0xDFFF < last then 0xE000 else m + 1, last)
      | none => [(utf8Bytes first).zip (utf8Bytes last)]

/-- How many items two lists have in common at their start. -/
def commonLength {α : Type} [BEq α] : List α → List α → Nat
  | a :: as, b :: bs => if a == b then commonLength as bs + 1 else 0
  | _, _ => 0

/-- How many distinct beginnings the sequences of a list have, neighbours being compared. -/
def distinctBeginnings (before : List (Nat × Nat)) : List (List (Nat × Nat)) → Nat
  | [] => 0
  | s :: rest => s.length - commonLength before s + distinctBeginnings s rest

/-- The size of a set of characters. -/
def setSize (backward : Bool) (s : CodeSet) : Nat :=
  match s.ranges with
  | [(a, b)] =>
    if a == b then stateBytes * (utf8Bytes a).length
    else general
  | _ => general
where
  general : Nat :=
    if s.isBelow 0x80 || !backward then 2 * stateBytes + 8 * s.ranges.length
    else
      let sequences := s.ranges.flatMap (byteSequences 16)
      stateBytes * (2 + distinctBeginnings [] sequences) + 4 * sequences.length

/-! ## Expressions -/

/-- Whether an expression matches nothing but empty texts. -/
def isEmptyOnly : Regex → Bool
  | .empty => true
  | .look _ => true
  | .char _ => false
  | .set _ => false
  | .seq a b => isEmptyOnly a && isEmptyOnly b
  | .alt a b => isEmptyOnly a && isEmptyOnly b
  | .rep _ max body => isEmptyOnly body || max == some 0
  | .capture body => isEmptyOnly body

/-- Whether an expression may match an empty text. -/
def isNullable : Regex → Bool
  | .empty => true
  | .look _ => true
  | .char _ => false
  | .set _ => false
  | .seq a b => isNullable a && isNullable b
  | .alt a b => isNullable a || isNullable b
  | .rep min _ body => min == 0 || isNullable body
  | .capture body => isNullable body

/-- The size of a repetition of something of the given size. -/
def repeatedSize (nullable : Bool) (body min : Nat) (max : Option Nat) : Nat :=
  match min, max with
  | 0, some 1 => 2 * stateBytes + 8 + body
  | 0, none => if nullable then 3 * stateBytes + 16 + body else stateBytes + 8 + body
  | n, none => n * body + stateBytes + 8
  | n, some m =>
    if n == 0 && m == 0 then stateBytes
    else if m ≤ n then n * body
    else n * body + stateBytes + (m - n) * (stateBytes + 8 + body)

/-- The size of an expression, in one direction of reading.  Groups are noted only forward. -/
def size (backward : Bool) : Regex → Nat
  | .empty => stateBytes
  | .look _ => stateBytes
  | .char c => stateBytes * c.utf8Size
  | .set s => setSize backward s
  | .seq a b => size backward a + size backward b
  | .alt a b => size backward a + size backward b + 2 * stateBytes + 8
  | .rep min max body =>
    if isEmptyOnly body then
      repeatedSize true (size backward body) (Nat.min min 1) (some (Nat.min (max.getD 1) 1))
    else repeatedSize (isNullable body) (size backward body) min max
  | .capture body => size backward body + (if backward then 0 else 2 * stateBytes)

/-- The states around every expression: its start, its end and the group that is the whole. -/
def frameSize (backward : Bool) : Nat :=
  if backward then 2 * stateBytes else 4 * stateBytes

/-- Whether an expression is within the limit in both directions. -/
def fits (r : Regex) : Bool :=
  [false, true].all fun backward => size backward r + frameSize backward ≤ sizeLimit

/-- The expression of a text, unless it is too large. -/
def compile (s : List Char) : Except Fault Regex := do
  let r ← ofText s
  if fits r then return r else .error .tooLarge

end ProxyRouting.Regex
