import ProxyRouting.Regex.Match
import ProxyRouting.Regex.Size
import ProxyRouting.Text.Cut

/-!
# Host patterns

A pattern says which hosts it matches.  It is written in one of three ways:

    /e/        the hosts that the regular expression e matches as a whole
    a*b        the hosts that are an a, anything, and a b
    a.b        the host a.b and all hosts below it; with a dot in front only those below it
-/

namespace ProxyRouting

inductive HostPattern
  | suffix (text : String)
  | expression (source : String) (regex : Regex)
  deriving Repr, DecidableEq

/-- A pattern whose regular expression is at fault. -/
structure PatternError where
  pattern : String
  fault : Regex.Fault
  deriving Repr, DecidableEq, Inhabited

def PatternError.message (e : PatternError) : String :=
  "Invalid host pattern '" ++ e.pattern ++ "': " ++ e.fault.message

namespace HostPattern

/-! ## Reading -/

/-- The regular expression between slashes. -/
def body? (pattern : List Char) : Option (List Char) :=
  (Text.between? '/' '/' pattern).filter fun body => !body.isEmpty

/-- An expression that has to match from the start of the text to its end. -/
def anchored (body : List Char) : List Char :=
  "^(?:".toList ++ body ++ ")$".toList

/-- The expression between slashes has to be one on its own, or a parenthesis in it could close
the group around it. -/
def compileBody (body : List Char) : Except Regex.Fault Regex := do
  let _ ← Regex.compile body
  Regex.compile (anchored body)

/-- A text as an expression that matches that text only. -/
def escaped (literal : List Char) : List Char :=
  literal.flatMap fun c => if Regex.isMeta c then ['\\', c] else [c]

/-- The pieces between stars, as an expression with anything between them. -/
def globbed : List (List Char) → List Char
  | [] => []
  | [piece] => escaped piece
  | piece :: pieces => escaped piece ++ ".*".toList ++ globbed pieces

def compile (pattern : String) : Except PatternError HostPattern :=
  let expressed : Except Regex.Fault Regex → Except PatternError HostPattern
    | .ok regex => .ok (.expression pattern regex)
    | .error fault => .error ⟨pattern, fault⟩
  match body? pattern.toList with
  | some body => expressed (compileBody body)
  | none =>
    if pattern.toList.contains '*' then
      expressed (Regex.compile (anchored (globbed (Text.splitAt '*' pattern.toList))))
    else .ok (.suffix pattern)

/-- The text that a pattern was read from. -/
def source : HostPattern → String
  | suffix text => text
  | expression source _ => source

/-! ## Matching -/

/-- Whether a host ends in a domain, with a dot before it or nothing. -/
def endsIn (domain host : List Char) : Bool :=
  match domain.isSuffixOf? host with
  | none => false
  | some before => domain.head? == some '.' || before.isEmpty || before.getLast? == some '.'

/-- An expression is searched for in the host: what keeps it from matching a part are its anchors. -/
def isMatch (p : HostPattern) (host : String) : Bool :=
  match p with
  | suffix text => endsIn text.toList host.toList
  | expression _ regex => regex.isMatch host.toList

end HostPattern

end ProxyRouting
