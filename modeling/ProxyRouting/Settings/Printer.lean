import ProxyRouting.Json.Text
import ProxyRouting.Settings.Reader

/-!
# Writing settings

Settings are written as one object without blanks, fields in a fixed order, without passwords.
What is written is read back, but for the passwords:

    Settings.ofText s.toText = ok s.withoutPasswords
-/

namespace ProxyRouting

/-! ## Values -/

def writeBool (b : Bool) : List Char :=
  if b then "true".toList else "false".toList

def writeOption {α : Type} (write : α → List Char) : Option α → List Char
  | none => "null".toList
  | some a => write a

def writePort (port : UInt16) : List Char :=
  Nat.toDigits 10 port.toNat

/-- Items with commas between them. -/
def separated : List (List Char) → List Char
  | [] => []
  | [item] => item
  | item :: items => item ++ ',' :: separated items

def writeList {α : Type} (write : α → List Char) (items : List α) : List Char :=
  '[' :: separated (items.map write) ++ [']']

def writeObject (members : List (String × List Char)) : List Char :=
  '\x7b' :: separated (members.map fun m => Json.quoted m.1 ++ ':' :: m.2) ++ ['\x7d']

/-! ## Records -/

def ServerRecord.write (r : ServerRecord) : List Char :=
  let texts := writeList Json.quoted
  writeObject [("type", Json.quoted r.kind.name), ("host", writeOption Json.quoted r.host),
    ("port", writeOption writePort r.port), ("username", writeOption Json.quoted r.username),
    ("forHosts", texts r.forHosts), ("notForHosts", texts r.notForHosts),
    ("forProtocols", texts r.forProtocols)]

def ServerRecord.toText (r : ServerRecord) : String :=
  String.ofList r.write

def ServerRecord.withoutPassword (r : ServerRecord) : ServerRecord :=
  { r with password := none }

namespace Settings

def write (s : Settings) : List Char :=
  writeObject [("enabled", writeBool s.enabled), ("alwaysPrint", writeBool s.alwaysPrint),
    ("printExclusions", writeList Json.quoted s.printExclusions),
    ("servers", writeList ServerRecord.write s.servers)]

def toText (s : Settings) : String :=
  String.ofList s.write

def withoutPasswords (s : Settings) : Settings :=
  { s with servers := s.servers.map ServerRecord.withoutPassword }

/-- Whether the written text is read back as the same settings. -/
def survivesWriting (s : Settings) : Bool :=
  match ofText s.toText with
  | .ok t => t == s
  | .error _ => false

end Settings

end ProxyRouting
