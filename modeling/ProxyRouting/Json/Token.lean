import ProxyRouting.Json.Error

/-!
# Blanks, words and marks

The parts of a settings text between its values.  Blanks may stand between any two of them.
-/

namespace ProxyRouting.Json

def isBlank (c : Char) : Bool :=
  c == ' ' || c == '\n' || c == '\t' || c == '\r'

def dropBlanks (s : List Char) : List Char :=
  s.dropWhile isBlank

/-- Reads the rest of a word. -/
def readWord : List Char → List Char → Except Error (List Char)
  | [], s => .ok s
  | _ :: _, [] => .error .endInValue
  | w :: word, c :: s => if w == c then readWord word s else .error .expectedWord

/-- Reads the colon between a name and its value. -/
def readColon (s : List Char) : Except Error (List Char) :=
  match dropBlanks s with
  | [] => .error .endInObject
  | ':' :: rest => .ok rest
  | _ => .error .expectedColon

end ProxyRouting.Json
