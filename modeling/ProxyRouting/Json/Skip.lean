import ProxyRouting.Json.Text
import ProxyRouting.Json.Token

/-!
# Passing over a value

The value of a member that no record has is passed over, however deep it is nested.  `skipFrom`
goes from one scalar to the next and keeps the brackets that are open, the innermost first.
-/

namespace ProxyRouting.Json

inductive Bracket
  | list
  | object
  deriving Repr, DecidableEq

namespace Bracket

def closing : Bracket → Char
  | list => ']'
  | object => '\x7d'

/-- The fault if the text ends inside. -/
def atEnd : Bracket → Error
  | list => .endInList
  | object => .endInObject

/-- The fault if neither a comma nor the closing bracket follows a value. -/
def unclosed : Bracket → Error
  | list => .expectedListEnd
  | object => .expectedObjectEnd

end Bracket

/-! ## Scalars -/

def skipExponent (s : List Char) : Except Error (List Char) :=
  let digits :=
    match s with
    | '+' :: rest | '-' :: rest => rest
    | _ => s
  match digits with
  | c :: rest => if c.isDigit then .ok (rest.dropWhile Char.isDigit) else .error .invalidNumber
  | [] => .error .invalidNumber

def skipFraction (s : List Char) : Except Error (List Char) :=
  match s with
  | c :: rest =>
    if !c.isDigit then .error .invalidNumber
    else
      match rest.dropWhile Char.isDigit with
      | 'e' :: rest | 'E' :: rest => skipExponent rest
      | rest => .ok rest
  | [] => .error .invalidNumber

/-- Passes over a number after its sign. -/
def skipNumber (s : List Char) : Except Error (List Char) :=
  let scale : List Char → Except Error (List Char)
    | '.' :: rest => skipFraction rest
    | 'e' :: rest | 'E' :: rest => skipExponent rest
    | rest => .ok rest
  match s with
  | '0' :: c :: rest => if c.isDigit then .error .invalidNumber else scale (c :: rest)
  | c :: rest => if c.isDigit then scale (rest.dropWhile Char.isDigit) else .error .invalidNumber
  | [] => .error .invalidNumber

/-- Passes over a value other than a list or an object. -/
def skipScalar : List Char → Except Error (List Char)
  | [] => .error .endInValue
  | 'n' :: rest => readWord "ull".toList rest
  | 't' :: rest => readWord "rue".toList rest
  | 'f' :: rest => readWord "alse".toList rest
  | '-' :: rest => skipNumber rest
  | '"' :: rest => skipText rest
  | c :: rest => if c.isDigit then skipNumber (c :: rest) else .error .expectedValue

/-! ## Nested values -/

/-- Goes on to the next value inside a bracket; in an object it follows a name and a colon. -/
def enter (b : Bracket) (s : List Char) : Except Error (List Char) :=
  match b with
  | .list => .ok s
  | .object =>
    match dropBlanks s with
    | [] => .error .endInObject
    | '"' :: rest => do readColon (← skipText rest)
    | _ => .error .keyNotString

/-- After a value, closes brackets up to the next value; gives those that are still open. -/
def close : List Bracket → List Char → Except Error (List Bracket × List Char)
  | [], s => .ok ([], s)
  | b :: outer, s =>
    match dropBlanks s with
    | [] => .error b.atEnd
    | c :: rest =>
      if c == ',' then do return (b :: outer, ← enter b rest)
      else if c == b.closing then close outer rest
      else .error b.unclosed

/-- Opens a bracket, which may be closed at once. -/
def opened (b : Bracket) (outer : List Bracket) (s : List Char) :
    Except Error (List Bracket × List Char) :=
  match dropBlanks s with
  | [] => .error b.atEnd
  | c :: rest =>
    if c == b.closing then close outer rest else do return (b :: outer, ← enter b (c :: rest))

/-- Passes over a scalar or an opening bracket, and over the closing brackets after it. -/
def skipStep (outer : List Bracket) (s : List Char) : Except Error (List Bracket × List Char) :=
  match dropBlanks s with
  | '[' :: rest => opened .list outer rest
  | '\x7b' :: rest => opened .object outer rest
  | s => do close outer (← skipScalar s)

/-- Passes over values until no bracket is open.  A step takes at least one character, so `clock`,
which loses one a step, may start as the text itself. -/
def skipFrom (clock : List Char) (outer : List Bracket) (s : List Char) :
    Except Error (List Char) :=
  match clock with
  | [] => .error .endInValue
  | _ :: clock =>
    match skipStep outer s with
    | .error e => .error e
    | .ok ([], rest) => .ok rest
    | .ok (outer, rest) => skipFrom clock outer rest

/-- Passes over a value. -/
def skip (s : List Char) : Except Error (List Char) :=
  skipFrom s [] s

end ProxyRouting.Json
