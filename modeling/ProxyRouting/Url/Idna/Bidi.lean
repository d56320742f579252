import ProxyRouting.Unicode.Direction

/-!
# Labels in two directions

In a domain name with characters that are written from right to left, each label has to be of one
direction, told by its first character.
-/

namespace ProxyRouting.Idna

open Unicode (directionClass)

/-- Whether a class is among those named. -/
def isOneOf (names : List String) (direction : List Char) : Bool :=
  names.any fun name => name.toList == direction

/-- Whether a character is written from right to left, or is a number that goes with such; none of
ASCII is. -/
def isRightToLeft (c : Char) : Bool :=
  0x80 ≤ c.toNat && isOneOf ["R", "AL", "AN"] (directionClass c.toNat)

/-- Drops the marks at the end, given in reverse. -/
def withoutMarks (reversed : List (List Char)) : List (List Char) :=
  reversed.dropWhile (isOneOf ["NSM"])

/-- Whether a label starts, goes on and ends as its direction wants it. -/
def isOneDirection (label : List Char) : Bool :=
  let neutral := ["EN", "ES", "CS", "ET", "ON", "BN", "NSM"]
  match label.map fun c => directionClass c.toNat with
  | [] => true
  | first :: rest =>
    let reversed := withoutMarks rest.reverse ++ [first]
    let last := reversed.head?.getD first
    if isOneOf ["L"] first then
      reversed.all (isOneOf ("L" :: neutral)) && isOneOf ["L", "EN"] last
    else if isOneOf ["R", "AL"] first then
      reversed.all (isOneOf ("R" :: "AL" :: "AN" :: neutral)) &&
        isOneOf ["R", "AL", "EN", "AN"] last &&
        !(reversed.any (isOneOf ["EN"]) && reversed.any (isOneOf ["AN"]))
    else false

end ProxyRouting.Idna
