import ProxyRouting.Json.Number
import ProxyRouting.Json.Skip

/-!
# Reading values of a known kind

A reader takes a value off the front of a text.  A record is read from an object, by name, or from
a list, in the order of its fields.

A `RecordField` says under which names a field is found, whether it has been read, and how it is
read; the state `σ` holds what has been read so far.  In an object fields may come in any order,
unknown names are passed over, and a field that comes twice is a fault whichever name it has.  In
a list, the fields that it is too short for are left out.
-/

namespace ProxyRouting.Json

/-- Takes a value off the front of a text. -/
abbrev Reader (α : Type) := List Char → Except Error (α × List Char)

/-! ## Scalars -/

/-- The fault where a value of another kind is found; the value itself may be at fault. -/
def otherType (expected : String) (s : List Char) : Error :=
  let found : Except Error Found :=
    match dropBlanks s with
    | [] => .error .endInValue
    | 'n' :: rest => (readWord "ull".toList rest).map fun _ => .null
    | 't' :: rest => (readWord "rue".toList rest).map fun _ => .boolean true
    | 'f' :: rest => (readWord "alse".toList rest).map fun _ => .boolean false
    | '-' :: rest => (readNumber true rest).map fun r => r.1.found
    | '"' :: rest => (readText rest).map fun r => .string r.1
    | '[' :: _ => .ok .sequence
    | '\x7b' :: _ => .ok .map
    | c :: rest =>
      if c.isDigit then (readNumber false (c :: rest)).map fun r => r.1.found
      else .error .expectedValue
  match found with
  | .ok found => .wrongType found expected
  | .error e => e

def readBool : Reader Bool := fun s =>
  match dropBlanks s with
  | 't' :: rest => do return (true, ← readWord "rue".toList rest)
  | 'f' :: rest => do return (false, ← readWord "alse".toList rest)
  | s => .error (otherType "a boolean" s)

def readString : Reader String := fun s =>
  match dropBlanks s with
  | '"' :: rest => readText rest
  | s => .error (otherType "a string" s)

/-- A number as a port. -/
def Number.toPort (n : Number) : Except Error UInt16 :=
  match n with
  | .integer i =>
    if 0 ≤ i && i < 65536 then .ok (UInt16.ofNat i.toNat) else .error (.wrongValue n.found "u16")
  | .double _ => .error (.wrongType n.found "u16")

def readPort : Reader UInt16 := fun s =>
  match dropBlanks s with
  | '-' :: rest => do
    let (n, rest) ← readNumber true rest
    return (← n.toPort, rest)
  | c :: rest =>
    if c.isDigit then do
      let (n, rest) ← readNumber false (c :: rest)
      return (← n.toPort, rest)
    else .error (otherType "u16" (c :: rest))
  | [] => .error .endInValue

/-- A value, or `null` for none. -/
def readOption {α : Type} (read : Reader α) : Reader (Option α) := fun s =>
  match dropBlanks s with
  | 'n' :: rest => do return (none, ← readWord "ull".toList rest)
  | s => do
    let (a, rest) ← read s
    return (some a, rest)

/-! ## Lists -/

/-- Goes on to the next item of a list; `none` at its closing bracket, which is left. -/
def nextItem (isFirst : Bool) (s : List Char) : Except Error (Option (List Char)) :=
  match dropBlanks s with
  | [] => .error .endInList
  | ']' :: _ => .ok none
  | c :: rest =>
    if isFirst then .ok (some (c :: rest))
    else if c != ',' then .error .expectedListEnd
    else
      match dropBlanks rest with
      | [] => .error .endInValue
      | ']' :: _ => .error .trailingComma
      | rest => .ok (some rest)

/-- Reads the closing bracket of a list. -/
def readListEnd (s : List Char) : Except Error (List Char) :=
  match dropBlanks s with
  | [] => .error .endInList
  | ']' :: rest => .ok rest
  | ',' :: rest =>
    match dropBlanks rest with
    | ']' :: _ => .error .trailingComma
    | _ => .error .trailingCharacters
  | _ => .error .trailingCharacters

/-- Reads the items of a list after those that are done, last first, and its end.  An item takes at
least one character, so `clock`, which loses one an item, may start as the text itself. -/
def readItems {α : Type} (read : Reader α) (clock : List Char) (done : List α) :
    Reader (List α) := fun s =>
  match clock with
  | [] => .error .endInList
  | _ :: clock =>
    match nextItem done.isEmpty s with
    | .error e => .error e
    | .ok none => do return (done.reverse, ← readListEnd s)
    | .ok (some s) =>
      match read s with
      | .error e => .error e
      | .ok (a, rest) => readItems read clock (a :: done) rest

def readList {α : Type} (read : Reader α) : Reader (List α) := fun s =>
  match dropBlanks s with
  | '[' :: rest => readItems read rest [] rest
  | s => .error (otherType "a sequence" s)

/-! ## Records -/

structure RecordField (σ : Type) where
  name : String
  otherNames : List String
  isRead : σ → Bool
  read : σ → Reader σ

/-- A field from how to see and to set its value in the state. -/
def RecordField.of {σ α : Type} (name : String) (otherNames : List String) (read : Reader α)
    (value? : σ → Option α) (set : σ → α → σ) : RecordField σ where
  name := name
  otherNames := otherNames
  isRead state := (value? state).isSome
  read state s := do
    let (a, rest) ← read s
    return (set state a, rest)

def RecordField.hasName {σ : Type} (f : RecordField σ) (name : String) : Bool :=
  f.name == name || f.otherNames.contains name

/-- Goes on to the next name of an object and reads it; `none` after its closing bracket. -/
def nextName (isFirst : Bool) (s : List Char) : Except Error (Option String × List Char) :=
  let name : List Char → Except Error (Option String × List Char)
    | '"' :: rest => do
      let (name, rest) ← readText rest
      return (some name, rest)
    | _ => .error .keyNotString
  match dropBlanks s with
  | [] => .error .endInObject
  | '\x7d' :: rest => .ok (none, rest)
  | c :: rest =>
    if isFirst then name (c :: rest)
    else if c != ',' then .error .expectedObjectEnd
    else
      match dropBlanks rest with
      | [] => .error .endInValue
      | '\x7d' :: _ => .error .trailingComma
      | rest => name rest

/-- Reads the value of a member after its name. -/
def readMember {σ : Type} (fields : List (RecordField σ)) (name : String) (state : σ) :
    Reader σ := fun s =>
  match fields.find? (·.hasName name) with
  | none => do return (state, ← skip (← readColon s))
  | some f =>
    if f.isRead state then .error (.duplicateField f.name)
    else do f.read state (← readColon s)

/-- Reads the members of an object and its end, one for each character of `clock` at the most. -/
def readMembers {σ : Type} (fields : List (RecordField σ)) (clock : List Char) (isFirst : Bool)
    (state : σ) : Reader σ := fun s =>
  match clock with
  | [] => .error .endInObject
  | _ :: clock =>
    match nextName isFirst s with
    | .error e => .error e
    | .ok (none, rest) => .ok (state, rest)
    | .ok (some name, rest) =>
      match readMember fields name state rest with
      | .error e => .error e
      | .ok (state, rest) => readMembers fields clock false state rest

/-- Reads fields in their order up to the end of the list. -/
def readInOrder {σ : Type} (isFirst : Bool) (state : σ) : List (RecordField σ) → Reader σ
  | [], s => do return (state, ← readListEnd s)
  | f :: fields, s =>
    match nextItem isFirst s with
    | .error e => .error e
    | .ok none => do return (state, ← readListEnd s)
    | .ok (some s) => do
      let (state, rest) ← f.read state s
      readInOrder false state fields rest

/-- Reads a record; `name` says what was expected if there is none. -/
def readRecord {σ : Type} (name : String) (fields : List (RecordField σ)) (start : σ) :
    Reader σ := fun s =>
  match dropBlanks s with
  | '[' :: rest => readInOrder true start fields rest
  | '\x7b' :: rest => readMembers fields rest true start rest
  | s => .error (otherType name s)

/-- Reads a whole text as one value. -/
def readAll {α : Type} (read : Reader α) (s : String) : Except Error α := do
  let (a, rest) ← read s.toList
  if (dropBlanks rest).isEmpty then return a else .error .trailingCharacters

end ProxyRouting.Json
