import ProxyRouting.Regex.Basic

/-!
# Matching

A set of positions is a number whose bits are the positions.  Over a given text an expression is a
function from sets to sets: from the positions where a match may start to those where it may end.

Each set of characters is turned once into the set of positions that such a character follows
(`Scan`); taking a character is then a mask and a shift, a condition is a mask, and a repetition is
run until it yields nothing new.

    j ∈ ends (onText text r) S ↔ ∃ i ∈ S, r.Matches text i j

A search starts at every position at once.
-/

namespace ProxyRouting.Regex

/-- An expression over a given text. -/
inductive Scan
  | pass
  | take (follows : Nat)
  | check (holds : Nat)
  | seq (a b : Scan)
  | alt (a b : Scan)
  | rep (min : Nat) (max : Option Nat) (body : Scan)

/-- The positions that a character with the property follows. -/
def followedBy (p : Char → Bool) : List Char → Nat
  | [] => 0
  | c :: rest => 2 * followedBy p rest + (if p c then 1 else 0)

/-- The positions where a condition holds, given the character before the first. -/
def heldAt (l : Look) (before : Option Char) : List Char → Nat
  | [] => if l.holds before none then 1 else 0
  | c :: rest => 2 * heldAt l (some c) rest + (if l.holds before (some c) then 1 else 0)

/-- An expression over a text. -/
def onText (text : List Char) : Regex → Scan
  | .empty => .pass
  | .char c => .take (followedBy (· == c) text)
  | .set s => .take (followedBy (fun c => s.contains c.toNat) text)
  | .look l => .check (heldAt l none text)
  | .seq a b => .seq (onText text a) (onText text b)
  | .alt a b => .alt (onText text a) (onText text b)
  | .rep min max body => .rep min max (onText text body)
  | .capture body => onText text body

/-- Applies a function so many times, or until it changes nothing. -/
def times (f : Nat → Nat) : Nat → Nat → Nat
  | 0, s => s
  | n + 1, s =>
    let t := f s
    if t == s then s else times f n t

/-- What the positions `fresh` lead to in up to so many rounds, beside those already `found`. -/
def spread (f : Nat → Nat) : Nat → Nat → Nat → Nat
  | 0, found, _ => found
  | n + 1, found, fresh =>
    let reached := f fresh
    let new := reached ^^^ (reached &&& found)
    if new == 0 then found else spread f n (found ||| new) new

/-- Where matches end that start at one of the given positions.  A repetition without an upper
bound needs no more rounds than the text has positions. -/
def Scan.ends (positions : Nat) : Scan → Nat → Nat
  | pass, s => s
  | take follows, s => (s &&& follows) <<< 1
  | check holds, s => s &&& holds
  | seq a b, s => b.ends positions (a.ends positions s)
  | alt a b, s => a.ends positions s ||| b.ends positions s
  | rep min max body, s =>
    let first := times (body.ends positions) min s
    let more := match max with
      | some m => m - min
      | none => positions
    spread (body.ends positions) more first first

/-- All positions of a text with so many characters. -/
def everyPosition (length : Nat) : Nat :=
  1 <<< (length + 1) - 1

/-- Whether an expression has a match anywhere in a text. -/
def isMatch (r : Regex) (text : List Char) : Bool :=
  (onText text r).ends (text.length + 1) (everyPosition text.length) != 0

end ProxyRouting.Regex
