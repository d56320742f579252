/-!
# Cutting texts

A text is cut at the first or the last place where a mark stands; both functions give what is before
the mark and what is after it.

    cut? m s = some (a, b) → s = a ++ [m] ++ b and m is not in a
    cutLast? m s = some (a, b) → s = a ++ [m] ++ b and m is not in b
    cutAt? w s = some (a, b) → s = a ++ w ++ b and no earlier place of s starts with w
-/

namespace ProxyRouting.Text

/-- Cuts at the first occurrence of a character. -/
def cut? (mark : Char) : List Char → Option (List Char × List Char)
  | [] => none
  | c :: rest =>
    if c == mark then some ([], rest) else (cut? mark rest).map fun r => (c :: r.1, r.2)

/-- Cuts at the last occurrence of a character. -/
def cutLast? (mark : Char) : List Char → Option (List Char × List Char)
  | [] => none
  | c :: rest =>
    match cutLast? mark rest with
    | some r => some (c :: r.1, r.2)
    | none => if c == mark then some ([], rest) else none

/-- Cuts at the first occurrence of a word. -/
def cutAt? (word : List Char) (s : List Char) : Option (List Char × List Char) :=
  match word.isPrefixOf? s with
  | some rest => some ([], rest)
  | none =>
    match s with
    | [] => none
    | c :: rest => (cutAt? word rest).map fun r => (c :: r.1, r.2)

/-- What stands between one character at the start and another at the end, if they do. -/
def between? (first last : Char) : List Char → Option (List Char)
  | c :: rest => if c == first && rest.getLast? == some last then some rest.dropLast else none
  | [] => none

/-- The entries of a list whose entries are separated by a character. -/
def splitAt (mark : Char) : List Char → List (List Char)
  | [] => [[]]
  | c :: rest =>
    if c == mark then [] :: splitAt mark rest
    else
      match splitAt mark rest with
      | [] => [[c]]
      | piece :: pieces => (c :: piece) :: pieces

end ProxyRouting.Text
