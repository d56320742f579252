/-!
# Sets of code points

A set is its inclusive ranges, in rising order and with a gap between neighbours; `ofRanges`
brings any list of ranges into that form, and the Boolean operations keep it.

    (union s t).contains n = (s.contains n || t.contains n)
    (complement s).contains n = !s.contains n                       (n at most `lastCode`)

Tables are kept as text.  `decode` reads a table of ranges: hexadecimal numbers, two a range, the
first the number of code points skipped since the range before, the second the length less one.
`decodeRuns` reads a table that names a value for every code point: each entry is a name of fixed
width and, in hexadecimal, for how many code points it holds.
-/

namespace ProxyRouting.Unicode

/-- The largest code point. -/
def lastCode : Nat := 0x10FFFF

structure CodeSet where
  ranges : List (Nat × Nat)
  deriving Repr, DecidableEq, Inhabited

namespace CodeSet

/-! ## Operations -/

def empty : CodeSet := ⟨[]⟩

def full : CodeSet := ⟨[(0, lastCode)]⟩

def contains (s : CodeSet) (n : Nat) : Bool :=
  s.ranges.any fun r => r.1 ≤ n && n ≤ r.2

/-- Two lists of ranges in rising order of their first ends, as one. -/
def merge : List (Nat × Nat) → List (Nat × Nat) → List (Nat × Nat)
  | [], rs => rs
  | ls, [] => ls
  | l :: ls, r :: rs =>
    if l.1 ≤ r.1 then l :: merge ls (r :: rs) else r :: merge (l :: ls) rs
termination_by ls rs => ls.length + rs.length

/-- Joins ranges that overlap or touch, given in rising order of their first ends. -/
def coalesce : List (Nat × Nat) → List (Nat × Nat)
  | a :: b :: rest =>
    if b.1 ≤ a.2 + 1 then coalesce ((a.1, max a.2 b.2) :: rest) else a :: coalesce (b :: rest)
  | rs => rs
termination_by rs => rs.length

/-- The set that covers the given ranges, in any order; a range whose ends are swapped is empty. -/
def ofRanges (rs : List (Nat × Nat)) : CodeSet :=
  ⟨coalesce ((rs.filter fun r => r.1 ≤ r.2).mergeSort fun a b => a.1 ≤ b.1)⟩

def ofCodes (ns : List Nat) : CodeSet :=
  ofRanges (ns.map fun n => (n, n))

def union (s t : CodeSet) : CodeSet :=
  ⟨coalesce (merge s.ranges t.ranges)⟩

/-- The gaps between ranges, from `first` on. -/
def gaps (first : Nat) : List (Nat × Nat) → List (Nat × Nat)
  | [] => if first ≤ lastCode then [(first, lastCode)] else []
  | r :: rs => if first < r.1 then (first, r.1 - 1) :: gaps (r.2 + 1) rs else gaps (r.2 + 1) rs

def complement (s : CodeSet) : CodeSet :=
  ⟨gaps 0 s.ranges⟩

def inter (s t : CodeSet) : CodeSet :=
  (s.complement.union t.complement).complement

def diff (s t : CodeSet) : CodeSet :=
  (s.complement.union t).complement

def symmDiff (s t : CodeSet) : CodeSet :=
  (s.diff t).union (t.diff s)

def unions (sets : List CodeSet) : CodeSet :=
  ofRanges (sets.flatMap CodeSet.ranges)

/-- Whether every code point is below `bound`. -/
def isBelow (s : CodeSet) (bound : Nat) : Bool :=
  s.ranges.all fun r => r.2 < bound

/-! ## Tables -/

/-- The value of a hexadecimal digit; 0 for any other character. -/
def hexDigit (c : Char) : Nat :=
  if c.isDigit then c.toNat - 48 else if 'a' ≤ c && c ≤ 'f' then c.toNat - 87 else 0

def hexNumber (cs : List Char) : Nat :=
  cs.foldl (fun n c => n * 16 + hexDigit c) 0

/-- The words of a text, separated by blanks and line breaks. -/
def words (text : String) : List (List Char) :=
  let step (state : List (List Char) × List Char) (c : Char) :=
    if c == ' ' || c == '\n' then
      (if state.2.isEmpty then state else (state.2.reverse :: state.1, []))
    else (state.1, c :: state.2)
  let (done, last) := text.foldl step ([], [])
  (if last.isEmpty then done else last.reverse :: done).reverse

/-- Ranges from pairs of a gap and a length less one, counted from `first` on. -/
def ofGaps (first : Nat) : List Nat → List (Nat × Nat)
  | gap :: len :: rest => (first + gap, first + gap + len) :: ofGaps (first + gap + len + 1) rest
  | _ => []

def decode (text : String) : CodeSet :=
  ⟨ofGaps 0 ((words text).map hexNumber)⟩

end CodeSet

/-- A value and the code points, first and last, that have it. -/
structure Run where
  name : List Char
  first : Nat
  last : Nat
  deriving Repr, Inhabited

/-- Runs from words that hold a name of `width` characters and a length, counted from `first` on. -/
def Run.ofWords (width first : Nat) : List (List Char) → List Run
  | [] => []
  | w :: ws =>
    let len := CodeSet.hexNumber (w.drop width)
    ⟨w.take width, first, first + len - 1⟩ :: Run.ofWords width (first + len) ws

def decodeRuns (width : Nat) (text : String) : List Run :=
  Run.ofWords width 0 (CodeSet.words text)

/-- The code points whose run has one of the names. -/
def CodeSet.ofRuns (runs : List Run) (names : List String) : CodeSet :=
  let wanted := names.map String.toList
  .ofRanges ((runs.filter fun r => wanted.contains r.name).map fun r => (r.first, r.last))

/-- The name of the run that holds a code point. -/
def runAt (runs : List Run) (n : Nat) : Option (List Char) :=
  (runs.find? fun r => r.first ≤ n && n ≤ r.last).map Run.name

end ProxyRouting.Unicode
