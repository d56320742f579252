import ProxyRouting.Files
import ProxyRouting.HostPattern
import ProxyRouting.Json.Error

/-!
# Errors

What can be wrong with the settings or with a request.  Each error is a cause; `message` is its
text.
-/

namespace ProxyRouting

/-- The two lists of patterns of a server record. -/
inductive PatternList
  | forHosts
  | notForHosts
  deriving Repr, DecidableEq, Inhabited

def PatternList.name : PatternList → String
  | forHosts => "forHosts"
  | notForHosts => "notForHosts"

/-- Why no rule can be made of a server record. -/
inductive RecordFault
  | hostMissing
  | portMissing
  | noPatterns
  | bothPatternLists
  | patternEmpty (list : PatternList) (index : Nat)
  | patternInvalid (list : PatternList) (index : Nat) (error : PatternError)
  deriving Repr, DecidableEq

/-- The kinds of faults in the settings. -/
inductive FaultKind
  | notEmpty
  | notNull
  | noMatcher
  | tooManyMatchers
  | invalidPattern
  deriving Repr, DecidableEq

def FaultKind.name : FaultKind → String
  | notEmpty => "not_empty"
  | notNull => "not_null"
  | noMatcher => "no_matcher"
  | tooManyMatchers => "too_many_matchers"
  | invalidPattern => "invalid_pattern"

namespace RecordFault

def kind : RecordFault → FaultKind
  | hostMissing => .notEmpty
  | portMissing => .notNull
  | noPatterns => .noMatcher
  | bothPatternLists => .tooManyMatchers
  | patternEmpty .. => .notEmpty
  | patternInvalid .. => .invalidPattern

/-- The field at fault, seen from the record. -/
def path : RecordFault → String
  | hostMissing => ".host"
  | portMissing => ".port"
  | noPatterns => ""
  | bothPatternLists => ""
  | patternEmpty list i => "." ++ list.name ++ "[" ++ toString i ++ "]"
  | patternInvalid list i _ => "." ++ list.name ++ "[" ++ toString i ++ "]"

def text : RecordFault → String
  | hostMissing => "host can't be null or empty"
  | portMissing => "port can't be null or zero"
  | noPatterns => "you must specify either 'forHosts' or 'notForHosts' matchers"
  | bothPatternLists => "you can't specify both 'forHosts' and 'notForHosts' matchers"
  | patternEmpty .. => "can't be empty"
  | patternInvalid _ _ e => e.message

end RecordFault

inductive Error
  | record (index : Nat) (fault : RecordFault)
  | pattern (error : PatternError)
  | request (scheme host : String)
  | file (fault : FileFault)
  | settings (error : Json.Error)
  deriving Repr, DecidableEq

namespace Error

/-- The field of the settings that is at fault. -/
def field (index : Nat) (fault : RecordFault) : String :=
  "servers[" ++ toString index ++ "]" ++ fault.path

def message : Error → String
  | record index fault =>
    "Invalid configuration at " ++ field index fault ++ " (" ++ fault.kind.name ++ "): " ++
      fault.text
  | pattern e => e.message
  | request scheme host =>
    "Invalid request: scheme = '" ++ scheme ++ "' host = '" ++ host ++ "'"
  | file fault => "IO error: " ++ fault.message
  | settings e => "Settings parse error: " ++ e.message

/-- The text of the error that caused this one. -/
def cause? : Error → Option String
  | record .. => none
  | pattern e => some e.fault.message
  | request .. => none
  | file fault => some fault.message
  | settings e => some e.message

/-- Whether the settings are at fault, and not a request. -/
def isConfiguration : Error → Bool
  | request .. => false
  | _ => true

def kind? : Error → Option FaultKind
  | record _ fault => some fault.kind
  | pattern _ => some .invalidPattern
  | _ => none

end Error

end ProxyRouting
