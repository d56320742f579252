import ProxyRouting.Unicode.Identifier
import ProxyRouting.Unicode.Letter
import ProxyRouting.Unicode.Property

/-!
# Regular expressions

Expressions over characters, with conditions on positions and counted repetition, and what they
match.  `r.Matches text i j` says that `r` matches the characters of `text` from position `i` up to
position `j`; position `i` lies before character number `i`, so the last is `text.length`.

    (seq a b).Matches text i k ↔ ∃ j, a.Matches text i j ∧ b.Matches text j k
    (rep lo hi a).Matches text i j ↔ a matches from i to j in n rounds, lo ≤ n ≤ hi
-/

namespace ProxyRouting

open Unicode (CodeSet)

/-- Conditions on a position.  The flag of the word conditions says whether words are those of
Unicode or those of ASCII. -/
inductive Look
  | startText
  | endText
  | startLine
  | endLine
  | startLineCr
  | endLineCr
  | wordBoundary (unicode : Bool)
  | notWordBoundary (unicode : Bool)
  | wordStart (unicode : Bool)
  | wordEnd (unicode : Bool)
  | wordStartHalf (unicode : Bool)
  | wordEndHalf (unicode : Bool)
  deriving Repr, DecidableEq

inductive Regex
  | empty
  | char (c : Char)
  | set (s : CodeSet)
  | look (l : Look)
  | seq (a b : Regex)
  | alt (a b : Regex)
  | rep (min : Nat) (max : Option Nat) (body : Regex)
  | capture (body : Regex)
  deriving Repr, DecidableEq

/-! ## Words -/

namespace Regex

/-- Letters, marks, decimal digits, connectors and joiners. -/
def wordSet : CodeSet :=
  .unions [Unicode.alphabetic, Unicode.marks, Unicode.category ["Nd", "Pc"], Unicode.joinControl]

def asciiWordSet : CodeSet :=
  .ofRanges [(0x30, 0x39), (0x41, 0x5A), (0x5F, 0x5F), (0x61, 0x7A)]

/-- Whether a neighbour of a position is part of a word; there is none at the ends of the text. -/
def isWord (unicode : Bool) : Option Char → Bool
  | none => false
  | some c =>
    if c.toNat < 0x80 || !unicode then asciiWordSet.contains c.toNat
    else wordSet.contains c.toNat

end Regex

/-! ## Meaning -/

/-- Whether a condition holds between two neighbouring characters. -/
def Look.holds (l : Look) (before after : Option Char) : Bool :=
  match l with
  | startText => before == none
  | endText => after == none
  | startLine => before == none || before == some '\n'
  | endLine => after == none || after == some '\n'
  | startLineCr =>
    before == none || before == some '\n' || (before == some '\r' && after != some '\n')
  | endLineCr =>
    after == none || after == some '\r' || (after == some '\n' && before != some '\r')
  | wordBoundary u => Regex.isWord u before != Regex.isWord u after
  | notWordBoundary u => Regex.isWord u before == Regex.isWord u after
  | wordStart u => !Regex.isWord u before && Regex.isWord u after
  | wordEnd u => Regex.isWord u before && !Regex.isWord u after
  | wordStartHalf u => !Regex.isWord u before
  | wordEndHalf u => !Regex.isWord u after

/-- The characters before and after a position of a text. -/
def neighbours (text : List Char) (i : Nat) : Option Char × Option Char :=
  (if i = 0 then none else text[i - 1]?, text[i]?)

namespace Regex

/-- `n` steps of a relation. -/
def Rounds (step : Nat → Nat → Prop) : Nat → Nat → Nat → Prop
  | 0, i, j => i = j
  | n + 1, i, k => ∃ j, step i j ∧ Rounds step n j k

/-- Whether an expression matches a text between two positions. -/
def Matches (text : List Char) : Regex → Nat → Nat → Prop
  | empty, i, j => i = j
  | char c, i, j => text[i]? = some c ∧ j = i + 1
  | set s, i, j => (∃ c, text[i]? = some c ∧ s.contains c.toNat) ∧ j = i + 1
  | look l, i, j => l.holds (neighbours text i).1 (neighbours text i).2 ∧ i = j
  | seq a b, i, k => ∃ j, a.Matches text i j ∧ b.Matches text j k
  | alt a b, i, j => a.Matches text i j ∨ b.Matches text i j
  | rep min max body, i, j =>
    ∃ n, min ≤ n ∧ (∀ m, max = some m → n ≤ m) ∧ Rounds (body.Matches text) n i j
  | capture body, i, j => body.Matches text i j

/-- A repetition; one of a repetition, where both have simple bounds, is written as one. -/
def repeated (min : Nat) (max : Option Nat) (body : Regex) : Regex :=
  match body with
  | rep lo hi inner =>
    if min ≤ 1 && lo ≤ 1 && (max == none || max == some 1) && (hi == none || hi == some 1) then
      rep (min * lo) (if max == none || hi == none then none else some 1) inner
    else rep min max body
  | _ => rep min max body

end Regex

end ProxyRouting
