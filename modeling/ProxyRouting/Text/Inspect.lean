import ProxyRouting.Unicode.Category
import ProxyRouting.Unicode.Property

/-!
# Texts of values for the log

How values are shown for inspection: strings in quotes, lists in brackets, records by field.

    text "a\"b" = "\"a\\\"b\""
    list ["1", "2"] = "[1, 2]"
    option none = "None", option (some "1") = "Some(1)"

In a quoted string a character that cannot be seen, or that would join the one before it, is
written by its number.
-/

namespace ProxyRouting.Inspect

/-- The digits of a number in hexadecimal. -/
def hex (n : Nat) : List Char :=
  Nat.toDigits 16 n

/-- Whether a character is written by its number. -/
def isHidden (c : Char) : Bool :=
  if c.toNat < 0x7F then c.toNat < 0x20
  else Unicode.unprintable.contains c.toNat || Unicode.graphemeExtend.contains c.toNat

/-- A character inside quotes. -/
def quotedChar (c : Char) : List Char :=
  match c with
  | '\x00' => ['\\', '0']
  | '\t' => ['\\', 't']
  | '\r' => ['\\', 'r']
  | '\n' => ['\\', 'n']
  | '\\' => ['\\', '\\']
  | '"' => ['\\', '"']
  | ' ' => [' ']
  | _ => if isHidden c then ['\\', 'u', '\x7b'] ++ hex c.toNat ++ ['\x7d'] else [c]

/-- A string in quotes. -/
def text (s : String) : String :=
  String.ofList ('"' :: s.toList.flatMap quotedChar ++ ['"'])

def list (items : List String) : String :=
  "[" ++ ", ".intercalate items ++ "]"

def option : Option String → String
  | none => "None"
  | some shown => "Some(" ++ shown ++ ")"

def bool (b : Bool) : String :=
  if b then "true" else "false"

/-- A record, from its name and its fields in order. -/
def record (name : String) (fields : List (String × String)) : String :=
  name ++ " \x7b " ++ ", ".intercalate (fields.map fun f => f.1 ++ ": " ++ f.2) ++ " \x7d"

end ProxyRouting.Inspect
