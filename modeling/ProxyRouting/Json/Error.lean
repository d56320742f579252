import ProxyRouting.Text.Inspect

/-!
# What can be wrong with a settings text

Reading stops at the first fault.  A fault is one of three kinds: the text ends too early, it is
not well formed, or a value is not of the kind that is wanted there.
-/

namespace ProxyRouting.Json

/-- A value that was found where another was wanted. -/
inductive Found
  | null
  | boolean (b : Bool)
  | integer (n : Int)
  | decimal (text : String)
  | string (s : String)
  | sequence
  | map
  deriving Repr, DecidableEq

inductive Error
  | endInValue
  | endInString
  | endInList
  | endInObject
  | expectedValue
  | expectedWord
  | expectedColon
  | expectedListEnd
  | expectedObjectEnd
  | keyNotString
  | trailingComma
  | trailingCharacters
  | invalidNumber
  | numberOutOfRange
  | invalidEscape
  | controlCharacter
  | loneSurrogate
  | hexEscapeEnd
  | wrongType (found : Found) (expected : String)
  | wrongValue (found : Found) (expected : String)
  | duplicateField (name : String)
  | refused (reason : String)
  deriving Repr, DecidableEq

inductive Category
  | syntactic
  | data
  | endOfText
  deriving Repr, DecidableEq

def Category.name : Category → String
  | syntactic => "Syntax"
  | data => "Data"
  | endOfText => "Eof"

def Found.text : Found → String
  | null => "null"
  | boolean b => "boolean \x60" ++ Inspect.bool b ++ "\x60"
  | integer n => "integer \x60" ++ toString n ++ "\x60"
  | decimal text => "floating point \x60" ++ text ++ "\x60"
  | string s => "string " ++ Inspect.text s
  | sequence => "sequence"
  | map => "map"

namespace Error

def category : Error → Category
  | endInValue | endInString | endInList | endInObject => .endOfText
  | wrongType .. | wrongValue .. | duplicateField _ | refused _ => .data
  | _ => .syntactic

def message : Error → String
  | endInValue => "EOF while parsing a value"
  | endInString => "EOF while parsing a string"
  | endInList => "EOF while parsing a list"
  | endInObject => "EOF while parsing an object"
  | expectedValue => "expected value"
  | expectedWord => "expected ident"
  | expectedColon => "expected \x60:\x60"
  | expectedListEnd => "expected \x60,\x60 or \x60]\x60"
  | expectedObjectEnd => "expected \x60,\x60 or \x60\x7d\x60"
  | keyNotString => "key must be a string"
  | trailingComma => "trailing comma"
  | trailingCharacters => "trailing characters"
  | invalidNumber => "invalid number"
  | numberOutOfRange => "number out of range"
  | invalidEscape => "invalid escape"
  | controlCharacter => "control character (\\u0000-\\u001F) found while parsing a string"
  | loneSurrogate => "lone leading surrogate in hex escape"
  | hexEscapeEnd => "unexpected end of hex escape"
  | wrongType found expected => "invalid type: " ++ found.text ++ ", expected " ++ expected
  | wrongValue found expected => "invalid value: " ++ found.text ++ ", expected " ++ expected
  | duplicateField name => "duplicate field \x60" ++ name ++ "\x60"
  | refused reason => reason

end Error

end ProxyRouting.Json
