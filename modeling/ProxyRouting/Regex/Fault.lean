/-!
# What can be wrong with a regular expression

A `Fault` is one cause.  Reading and resolving an expression stop at the first; `message` is the
text shown for it.
-/

namespace ProxyRouting.Regex

inductive Fault
  | unclosedGroup
  | unopenedGroup
  | lookAround
  | flagUnrecognized
  | flagDuplicate
  | flagDangling
  | flagNegatedTwice
  | flagEnd
  | groupNameEnd
  | groupNameEmpty
  | groupNameInvalid
  | groupNameDuplicate
  | repetitionMissing
  | repetitionUnclosed
  | repetitionNotDecimal
  | repetitionInvalid
  | decimalInvalid
  | classUnclosed
  | classEscape
  | classRangeBoundary
  | classRangeInvalid
  | escapeEnd
  | escapeUnrecognized
  | backreference
  | hexEmpty
  | hexDigit
  | hexInvalid
  | propertyMalformed
  | wordBoundaryUnclosed
  | wordBoundaryUnknown
  | wordBoundaryEnd
  | nestedTooDeep
  | propertyUnknown
  | propertyValueUnknown
  | unicodeNotAllowed
  | invalidUtf8
  | tooLarge
  deriving Repr, DecidableEq, Inhabited

/-- Nested groups, classes, repetitions, sequences and alternations may be this deep. -/
def nestLimit : Nat := 250

/-- The automaton of an expression may take this many bytes. -/
def sizeLimit : Nat := 10485760

namespace Fault

/-- The cause in words. -/
def text : Fault → String
  | unclosedGroup => "unclosed group"
  | unopenedGroup => "unopened group"
  | lookAround => "look-around, including look-ahead and look-behind, is not supported"
  | flagUnrecognized => "unrecognized flag"
  | flagDuplicate => "duplicate flag"
  | flagDangling => "dangling flag negation operator"
  | flagNegatedTwice => "flag negation operator repeated"
  | flagEnd => "expected flag but got end of regex"
  | groupNameEnd => "unclosed capture group name"
  | groupNameEmpty => "empty capture group name"
  | groupNameInvalid => "invalid capture group character"
  | groupNameDuplicate => "duplicate capture group name"
  | repetitionMissing => "repetition operator missing expression"
  | repetitionUnclosed => "unclosed counted repetition"
  | repetitionNotDecimal => "repetition quantifier expects a valid decimal"
  | repetitionInvalid => "invalid repetition count range, the start must be <= the end"
  | decimalInvalid => "decimal literal invalid"
  | classUnclosed => "unclosed character class"
  | classEscape => "invalid escape sequence found in character class"
  | classRangeBoundary => "invalid range boundary, must be a literal"
  | classRangeInvalid => "invalid character class range, the start must be <= the end"
  | escapeEnd => "incomplete escape sequence, reached end of pattern prematurely"
  | escapeUnrecognized => "unrecognized escape sequence"
  | backreference => "backreferences are not supported"
  | hexEmpty => "hexadecimal literal empty"
  | hexDigit => "invalid hexadecimal digit"
  | hexInvalid => "hexadecimal literal is not a Unicode scalar value"
  | propertyMalformed => "invalid Unicode character class"
  | wordBoundaryUnclosed =>
    "special word boundary assertion is either unclosed or contains an invalid character"
  | wordBoundaryUnknown =>
    "unrecognized special word boundary assertion, valid choices are: start, end, start-half " ++
      "or end-half"
  | wordBoundaryEnd =>
    "found either the beginning of a special word boundary or a bounded repetition on a \\b " ++
      "with an opening brace, but no closing brace"
  | nestedTooDeep =>
    "exceed the maximum number of nested parentheses/brackets (" ++ toString nestLimit ++ ")"
  | propertyUnknown => "Unicode property not found"
  | propertyValueUnknown => "Unicode property value not found"
  | unicodeNotAllowed => "Unicode not allowed here"
  | invalidUtf8 => "pattern can match invalid UTF-8"
  | tooLarge => "Compiled regex exceeds size limit of " ++ toString sizeLimit ++ " bytes."

/-- The text shown to the user; faults of the written expression say so first. -/
def message (fault : Fault) : String :=
  if fault == tooLarge then fault.text else "regex parse error: " ++ fault.text

end Fault

end ProxyRouting.Regex
