import ProxyRouting.Text.Cut
import ProxyRouting.Text.Digit

/-!
# IPv6 addresses

Eight groups of sixteen bits in hexadecimal with colons between them.  Two colons in one place stand
for groups of zeros, at least one; the last two groups may be written as four bytes in decimal.

    parse? a.text = some a
-/

namespace ProxyRouting.Url

open Text (hexValue? number?)

structure Ipv6 where
  groups : Vector Nat 8
  deriving Repr, DecidableEq

namespace Ipv6

/-! ## Reading -/

/-- The group that some hexadecimal digits write. -/
def group (digits : List Char) : Nat :=
  (number? 16 digits).getD 0

/-- A byte in decimal, without zeros in front. -/
def byte? (s : List Char) : Option Nat :=
  if s.isEmpty || (1 < s.length && s.head? == some '0') then none
  else (number? 10 s).filter (· < 256)

/-- Two groups written as four bytes. -/
def dotted? (s : List Char) : Option (Nat × Nat) :=
  match (Text.splitAt '.' s).mapM byte? with
  | some [a, b, c, d] => some (a * 256 + b, c * 256 + d)
  | _ => none

/-- The groups that are written, a zero where two colons stand, and how many groups there are up to
that zero. -/
structure Draft where
  groups : List Nat
  gap : Option Nat

/-- Reads groups after those that are done, latest first; `room` more would fit. -/
def readGroups : Nat → List Nat → Option Nat → List Char → Option Draft
  | _, done, gap, [] => some ⟨done.reverse, gap⟩
  | 0, _, _, _ :: _ => none
  | room + 1, done, gap, c :: s =>
    if c == ':' then
      if gap.isSome then none else readGroups room (0 :: done) (some (done.length + 1)) s
    else
      let digits := ((c :: s).take 4).takeWhile fun c => (hexValue? c).isSome
      match (c :: s).drop digits.length with
      | [] => some ⟨(group digits :: done).reverse, gap⟩
      | ':' :: rest =>
        if rest.isEmpty || digits.isEmpty then none
        else readGroups room (group digits :: done) gap rest
      | '.' :: _ =>
        if digits.isEmpty || room == 0 then none
        else (dotted? (c :: s)).map fun (a, b) => ⟨(b :: a :: done).reverse, gap⟩
      | _ => none

/-- Fills the gap with zeros; without one all groups have to be there. -/
def Draft.address? (d : Draft) : Option Ipv6 :=
  let groups := match d.gap with
    | some n => d.groups.take n ++ List.replicate (8 - d.groups.length) 0 ++ d.groups.drop n
    | none => d.groups
  if h : groups.length = 8 then some ⟨⟨groups.toArray, by simp [h]⟩⟩ else none

def parse? (s : List Char) : Option Ipv6 := do
  let draft ← match s with
    | ':' :: ':' :: rest => readGroups 7 [0] (some 1) rest
    | ':' :: _ => none
    | [] | [_] => none
    | s => readGroups 8 [] none s
  draft.address?

/-! ## Writing -/

/-- How many zeros a list starts with. -/
def zerosAhead (groups : List Nat) : Nat :=
  (groups.takeWhile (· == 0)).length

/-- The first of the longest stretches of zeros, as its start and length. -/
def longestGap (groups : List Nat) : Nat × Nat :=
  (List.range groups.length).foldl
    (fun best i =>
      let n := zerosAhead (groups.drop i)
      if best.2 < n then (i, n) else best) (0, 0)

def colonSeparated (groups : List Nat) : List Char :=
  [':'].intercalate (groups.map (Nat.toDigits 16))

/-- The shortest way of writing; one group of zeros is written out. -/
def text (a : Ipv6) : List Char :=
  let groups := a.groups.toList
  let (start, length) := longestGap groups
  if length < 2 then colonSeparated groups
  else colonSeparated (groups.take start) ++ "::".toList ++
    colonSeparated (groups.drop (start + length))

end Ipv6

end ProxyRouting.Url
