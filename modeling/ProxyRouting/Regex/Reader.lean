import ProxyRouting.Regex.Ast
import ProxyRouting.Text.Blank
import ProxyRouting.Text.Cut
import ProxyRouting.Text.Digit
import ProxyRouting.Unicode.Letter

/-!
# Reading regular expressions

`read` turns the characters of an expression into its tree, or stops at the first fault.

The reader walks the text once.  What is open around it is kept in a `Reader`: the items of the
sequence being read, the branches before it, and a stack with the same for every open group.
`Reader.step` reads one item; `Reader.run` repeats it to the end of the text.  Inside a class, a
`ClassReader` does the same for brackets and set operations.

Under the flag `x` blanks and comments between items are passed over; `skip` does so, and is called
at the places where they may stand.
-/

namespace ProxyRouting.Regex

open Text (isBlank cut? cutAt? hexValue?)

/-! ## Blanks and comments -/

/-- Passes over blanks and comments; `comment` says whether a comment is open. -/
def skipBlanks (comment : Bool) : List Char → List Char
  | [] => []
  | c :: rest =>
    if comment then skipBlanks (c != '\n') rest
    else if isBlank c then skipBlanks false rest
    else if c == '#' then skipBlanks true rest
    else c :: rest

/-- Passes over blanks and comments where the flag says so. -/
def skip (blanks : Bool) (s : List Char) : List Char :=
  if blanks then skipBlanks false s else s

theorem skipBlanks_length (comment : Bool) (s : List Char) :
    (skipBlanks comment s).length ≤ s.length := by
  induction s generalizing comment with
  | nil => simp [skipBlanks]
  | cons c rest ih =>
    have h1 := ih true
    have h2 := ih false
    have h3 := ih (c != '\n')
    simp only [skipBlanks, List.length_cons]
    split
    · omega
    · split
      · omega
      · split
        · omega
        · simp

theorem skip_length (blanks : Bool) (s : List Char) : (skip blanks s).length ≤ s.length := by
  unfold skip
  split
  · exact skipBlanks_length false s
  · exact Nat.le_refl _

/-- The character after the next one, seen past blanks.  A number sign counts as a blank once, and
where only blanks follow it is the first of them that is seen. -/
def peekPast (blanks : Bool) (rest : List Char) : Option Char :=
  if blanks then
    match rest.dropWhile isBlank with
    | [] => rest.head?
    | '#' :: more =>
      match more.dropWhile isBlank with
      | [] => rest.head?
      | c :: _ => some c
    | c :: _ => some c
  else rest.head?

/-! ## Escapes -/

/-- Characters with a meaning of their own. -/
def isMeta (c : Char) : Bool :=
  ['\\', '.', '+', '*', '?', '(', ')', '|', '[', ']', '\x7b', '\x7d', '^', '$', '#', '&', '-',
    '~'].contains c

/-- Whether a backslash may stand before a character that stays what it is: all of ASCII but
letters, digits and the angles that mark the ends of words. -/
def isEscapable (c : Char) : Bool :=
  isMeta c || (c.toNat < 0x80 && !c.isAlphanum && c != '<' && c != '>')

/-- The character with a number, if there is one. -/
def scalar? (n : Nat) : Option Char :=
  if n < 0xD800 || (0xE000 ≤ n && n < 0x110000) then some (Char.ofNat n) else none

/-- Reads so many hexadecimal digits. -/
def readHexDigits (blanks : Bool) : Nat → Nat → List Char → Except Fault (Nat × List Char)
  | 0, value, s => .ok (value, s)
  | _ + 1, _, [] => .error .escapeEnd
  | count + 1, value, c :: rest =>
    match hexValue? c with
    | some d => readHexDigits blanks count (value * 16 + d) (skip blanks rest)
    | none => .error .hexDigit

/-- Reads hexadecimal digits up to the closing brace; `seen` says whether there was one yet. -/
def readHexBraced (blanks seen : Bool) (value : Nat) (s : List Char) :
    Except Fault (Nat × List Char) :=
  match s with
  | [] => .error .escapeEnd
  | c :: rest =>
    if c == '\x7d' then (if seen then .ok (value, skip blanks rest) else .error .hexEmpty)
    else
      match hexValue? c with
      | some d =>
        have := skip_length blanks rest
        readHexBraced blanks true (value * 16 + d) (skip blanks rest)
      | none => .error .hexDigit
termination_by s.length

/-- Reads what follows `\x`, `\u` or `\U`, which take so many digits unless braces hold them. -/
def readHex (blanks : Bool) (digits : Nat) (s : List Char) : Except Fault (Literal × List Char) :=
  let number (isByte : Bool) (found : Nat × List Char) : Except Fault (Literal × List Char) :=
    match scalar? found.1 with
    | some c => .ok (⟨c, isByte⟩, found.2)
    | none => .error .hexInvalid
  match skip blanks s with
  | [] => .error .escapeEnd
  | '\x7b' :: rest => do number false (← readHexBraced blanks false 0 (skip blanks rest))
  | s => do number (digits == 2) (← readHexDigits blanks digits 0 s)

/-- The text up to a closing brace, and what follows the brace. -/
def readBraced (blanks : Bool) (s : List Char) : Except Fault (List Char × List Char) :=
  match s with
  | [] => .error .escapeEnd
  | c :: rest =>
    if c == '\x7d' then .ok ([], rest)
    else
      have := skip_length blanks rest
      (readBraced blanks (skip blanks rest)).map fun r => (c :: r.1, r.2)
termination_by s.length

/-- A property by what stands between its braces: `name`, or `name=value`, where a colon and `!=`
do as well. -/
def PropertyName.ofText (s : List Char) : PropertyName :=
  match ((cutAt? "!=".toList s).or (cut? ':' s)).or (cut? '=' s) with
  | some (name, value) => .valued name value
  | none => .single s

/-- Reads the name of a property, after `\p` or `\P`. -/
def readProperty (blanks : Bool) (s : List Char) : Except Fault (PropertyName × List Char) :=
  match skip blanks s with
  | [] => .error .escapeEnd
  | '\x7b' :: rest => do
    let (name, rest) ← readBraced blanks (skip blanks rest)
    return (.ofText name, rest)
  | '\\' :: _ => .error .propertyMalformed
  | c :: rest => .ok (.single [c], rest)

/-- The letters and hyphens at the start of a text, and the rest. -/
def readLetters (blanks : Bool) (s : List Char) : List Char × List Char :=
  match s with
  | [] => ([], [])
  | c :: rest =>
    if c.isAlpha || c == '-' then
      have := skip_length blanks rest
      let r := readLetters blanks (skip blanks rest)
      (c :: r.1, r.2)
    else ([], c :: rest)
termination_by s.length

/-- Reads what follows `\b`: a kind of boundary in braces, or nothing, where the braces turn out to
hold a count. -/
def readBoundary (blanks : Bool) : List Char → Except Fault (Assertion × List Char)
  | '\x7b' :: rest =>
    match skip blanks rest with
    | [] => .error .wordBoundaryEnd
    | c :: more =>
      if c.isAlpha || c == '-' then
        match readLetters blanks (c :: more) with
        | (name, '\x7d' :: rest) =>
          if name == "start".toList then .ok (.wordStart, rest)
          else if name == "end".toList then .ok (.wordEnd, rest)
          else if name == "start-half".toList then .ok (.wordStartHalf, rest)
          else if name == "end-half".toList then .ok (.wordEndHalf, rest)
          else .error .wordBoundaryUnknown
        | _ => .error .wordBoundaryUnclosed
      else .ok (.wordBoundary, '\x7b' :: rest)
  | s => .ok (.wordBoundary, s)

/-- What an escape or a single character stands for. -/
inductive Primitive
  | literal (lit : Literal)
  | assertion (a : Assertion)
  | dot
  | short (kind : ShortClass) (negated : Bool)
  | property (name : PropertyName) (negated : Bool)

/-- Reads what follows a backslash. -/
def readEscape (blanks : Bool) : List Char → Except Fault (Primitive × List Char)
  | [] => .error .escapeEnd
  | c :: rest =>
    let literal (d : Char) : Except Fault (Primitive × List Char) :=
      .ok (.literal (.verbatim d), rest)
    let assertion (a : Assertion) : Except Fault (Primitive × List Char) :=
      .ok (.assertion a, rest)
    let hex (digits : Nat) : Except Fault (Primitive × List Char) :=
      (readHex blanks digits rest).map fun r => (.literal r.1, r.2)
    let property (negated : Bool) : Except Fault (Primitive × List Char) :=
      (readProperty blanks rest).map fun r => (.property r.1 negated, r.2)
    if c.isDigit then .error .backreference
    else if isEscapable c then literal c
    else
      match c with
      | 'x' => hex 2
      | 'u' => hex 4
      | 'U' => hex 8
      | 'p' => property false
      | 'P' => property true
      | 'd' => .ok (.short .digit false, rest)
      | 'D' => .ok (.short .digit true, rest)
      | 's' => .ok (.short .space false, rest)
      | 'S' => .ok (.short .space true, rest)
      | 'w' => .ok (.short .word false, rest)
      | 'W' => .ok (.short .word true, rest)
      | 'a' => literal '\x07'
      | 'f' => literal '\x0c'
      | 't' => literal '\t'
      | 'n' => literal '\n'
      | 'r' => literal '\r'
      | 'v' => literal '\x0b'
      | 'A' => assertion .startText
      | 'z' => assertion .endText
      | 'b' => (readBoundary blanks rest).map fun r => (.assertion r.1, r.2)
      | 'B' => assertion .notWordBoundary
      | '<' => assertion .wordStart
      | '>' => assertion .wordEnd
      | _ => .error .escapeUnrecognized

/-- Reads an escape or a single character, outside of classes. -/
def readPrimitive (blanks : Bool) (c : Char) (rest : List Char) :
    Except Fault (Primitive × List Char) :=
  match c with
  | '\\' => readEscape blanks rest
  | '.' => .ok (.dot, rest)
  | '^' => .ok (.assertion .startLine, rest)
  | '$' => .ok (.assertion .endLine, rest)
  | _ => .ok (.literal (.verbatim c), rest)

def Primitive.toAst : Primitive → Ast
  | literal lit => .literal lit
  | assertion a => .assertion a
  | dot => .dot
  | short kind negated => .short kind negated
  | property name negated => .property name negated

/-! ## Classes -/

/-- A class that is open: whether it is negated, the operation that waits for its right side, and
the items since, last first. -/
structure ClassLevel where
  negated : Bool
  pending : Option (SetOp × ClassAst)
  items : List ClassAst

/-- A class being read, with the classes around it. -/
structure ClassReader where
  level : ClassLevel
  outer : List ClassLevel

namespace ClassLevel

/-- All that was read of a class, as one set. -/
def inside (level : ClassLevel) : ClassAst :=
  match level.pending with
  | some (kind, lhs) => .op kind lhs (.ofItems level.items)
  | none => .ofItems level.items

def push (level : ClassLevel) (item : ClassAst) : ClassLevel :=
  { level with items := item :: level.items }

/-- Makes what was read so far the left side of an operation. -/
def operate (level : ClassLevel) (kind : SetOp) : ClassLevel :=
  ⟨level.negated, some (kind, level.inside), []⟩

end ClassLevel

def asciiClass? (name : List Char) : Option AsciiClass :=
  [("alnum", AsciiClass.alnum), ("alpha", .alpha), ("ascii", .ascii), ("blank", .blank),
    ("cntrl", .cntrl), ("digit", .digit), ("graph", .graph), ("lower", .lower), ("print", .print),
    ("punct", .punct), ("space", .space), ("upper", .upper), ("word", .word),
    ("xdigit", .xdigit)].findSome? fun e => if e.1.toList == name then some e.2 else none

/-- Reads a class such as `[:alpha:]`, after its bracket, if there is one. -/
def readAscii : List Char → Option (ClassAst × List Char)
  | ':' :: rest =>
    let (negated, rest) :=
      match rest with
      | '^' :: more => (true, more)
      | _ => (false, rest)
    match rest.span (· != ':') with
    | (name, ':' :: ']' :: rest) =>
      (asciiClass? name).map fun kind => (.ascii kind negated, rest)
    | _ => none
  | _ => none

/-- The hyphens at the start of a class, which stand for themselves. -/
def readHyphens (blanks : Bool) (items : List ClassAst) (s : List Char) :
    List ClassAst × List Char :=
  match s with
  | '-' :: rest =>
    have := skip_length blanks rest
    readHyphens blanks (.literal (.verbatim '-') :: items) (skip blanks rest)
  | _ => (items, s)
termination_by s.length

/-- Opens a class, after its bracket: a negation, hyphens, or a closing bracket that stands for
itself. -/
def openClass (blanks : Bool) (s : List Char) : Except Fault (ClassLevel × List Char) :=
  let (negated, s) :=
    match skip blanks s with
    | '^' :: rest => (true, skip blanks rest)
    | s => (false, s)
  match readHyphens blanks [] s with
  | (_, []) => .error .classUnclosed
  | ([], ']' :: rest) =>
    match skip blanks rest with
    | [] => .error .classUnclosed
    | s => .ok (⟨negated, none, [.literal (.verbatim ']')]⟩, s)
  | (items, s) => .ok (⟨negated, none, items⟩, s)

/-- Reads an escape or a single character of a class. -/
def readClassPrimitive (blanks : Bool) : List Char → Except Fault (Primitive × List Char)
  | [] => .error .classUnclosed
  | '\\' :: rest => readEscape blanks rest
  | c :: rest => .ok (.literal (.verbatim c), rest)

def Primitive.toItem : Primitive → Except Fault ClassAst
  | literal lit => .ok (.literal lit)
  | short kind negated => .ok (.short kind negated)
  | property name negated => .ok (.property name negated)
  | assertion _ | dot => .error .classEscape

def Primitive.toBoundary : Primitive → Except Fault Literal
  | literal lit => .ok lit
  | _ => .error .classRangeBoundary

/-- Reads one item of a class: a character, an escape, or a range. -/
def readItem (blanks : Bool) (s : List Char) : Except Fault (ClassAst × List Char) := do
  let (first, s) ← readClassPrimitive blanks s
  match skip blanks s with
  | [] => .error .classUnclosed
  | '-' :: rest =>
    let after := peekPast blanks rest
    if after == some ']' || after == some '-' then
      return (← first.toItem, '-' :: rest)
    else
      let (second, s) ← readClassPrimitive blanks (skip blanks rest)
      let low ← first.toBoundary
      let high ← second.toBoundary
      if low.char ≤ high.char then return (.range low high, s) else .error .classRangeInvalid
  | s => return (← first.toItem, s)

namespace ClassReader

def push (r : ClassReader) (item : ClassAst) : ClassReader :=
  { r with level := r.level.push item }

def operate (r : ClassReader) (kind : SetOp) : ClassReader :=
  { r with level := r.level.operate kind }

/-- Reads one item of a class, a bracket or an operator; `.inl` when the outermost class ends. -/
def step (blanks : Bool) (r : ClassReader) (s : List Char) :
    Except Fault ((Ast ⊕ ClassReader) × List Char) :=
  match s with
  | [] => .error .classUnclosed
  | '[' :: rest =>
    match readAscii rest with
    | some (item, rest) => .ok (.inr (r.push item), rest)
    | none => (openClass blanks rest).map fun o => (.inr ⟨o.1, r.level :: r.outer⟩, o.2)
  | ']' :: rest =>
    match r.outer with
    | [] => .ok (.inl (.bracket r.level.negated r.level.inside), rest)
    | level :: outer =>
      .ok (.inr ⟨level.push (.bracket r.level.negated r.level.inside), outer⟩, rest)
  | '&' :: '&' :: rest => .ok (.inr (r.operate .inter), rest)
  | '-' :: '-' :: rest => .ok (.inr (r.operate .diff), rest)
  | '~' :: '~' :: rest => .ok (.inr (r.operate .symmDiff), rest)
  | s => (readItem blanks s).map fun i => (.inr (r.push i.1), i.2)

end ClassReader

/-! ## Groups -/

def flag? : Char → Option Flag
  | 'i' => some .caseInsensitive
  | 'm' => some .multiLine
  | 's' => some .dotNewLine
  | 'U' => some .swapGreed
  | 'u' => some .unicode
  | 'R' => some .carriageReturn
  | 'x' => some .blanks
  | _ => none

/-- Reads flags up to a colon (`.inr`) or a closing parenthesis (`.inl`). -/
def readFlags (change : FlagChange) (negated dangling : Bool) :
    List Char → Except Fault ((FlagChange ⊕ FlagChange) × List Char)
  | [] => .error .flagEnd
  | c :: rest =>
    if c == ':' || c == ')' then
      if dangling then .error .flagDangling
      else .ok (if c == ')' then .inl change else .inr change, rest)
    else if c == '-' then
      if negated then .error .flagNegatedTwice else readFlags change true true rest
    else
      match flag? c with
      | none => .error .flagUnrecognized
      | some flag =>
        if (change.state? flag).isSome then .error .flagDuplicate
        else readFlags (change ++ [(flag, !negated)]) negated false rest

/-- Whether a name of a group may hold a character; the first is a letter or an underscore. -/
def isNameChar (first : Bool) (c : Char) : Bool :=
  c == '_' || Unicode.alphabetic.contains c.toNat ||
    (!first && (c == '.' || c == '[' || c == ']' || Unicode.numbers.contains c.toNat))

/-- Reads the name of a group up to its closing angle. -/
def readName (first : Bool) : List Char → Except Fault (List Char × List Char)
  | [] => .error .groupNameEnd
  | c :: rest =>
    if c == '>' then .ok ([], rest)
    else if isNameChar first c then
      (readName false rest).map fun r => (c :: r.1, r.2)
    else .error .groupNameInvalid

/-- What an opening parenthesis begins. -/
inductive Opening
  | flags (change : FlagChange)
  | group (change : FlagChange)
  | capture (name : Option (List Char))

def readNamed (names : List (List Char)) (s : List Char) : Except Fault (Opening × List Char) := do
  let (name, rest) ← readName true s
  if name.isEmpty then .error .groupNameEmpty
  else if names.contains name then .error .groupNameDuplicate
  else return (.capture (some name), rest)

/-- Reads what follows an opening parenthesis; `names` are taken. -/
def readOpening (names : List (List Char)) : List Char → Except Fault (Opening × List Char)
  | '?' :: '=' :: _ | '?' :: '!' :: _ => .error .lookAround
  | '?' :: '<' :: '=' :: _ | '?' :: '<' :: '!' :: _ => .error .lookAround
  | '?' :: 'P' :: '<' :: rest => readNamed names rest
  | '?' :: '<' :: rest => readNamed names rest
  | '?' :: rest =>
    if rest.isEmpty then .error .unclosedGroup
    else do
      match ← readFlags [] false false rest with
      | (.inl [], _) => .error .repetitionMissing
      | (.inl change, rest) => return (.flags change, rest)
      | (.inr change, rest) => return (.group change, rest)
  | s => .ok (.capture none, s)

/-! ## Repetitions -/

/-- Decimal digits and what follows them. -/
def readDigits (blanks : Bool) (s : List Char) : List Char × List Char :=
  match s with
  | [] => ([], [])
  | c :: rest =>
    if c.isDigit then
      have := skip_length blanks rest
      let r := readDigits blanks (skip blanks rest)
      (c :: r.1, r.2)
    else ([], c :: rest)
termination_by s.length

/-- Passes over blanks, whatever the flag, and over comments between them if it says so. -/
def skipAfterDigits (blanks : Bool) (s : List Char) : List Char :=
  match s with
  | [] => []
  | c :: rest =>
    if isBlank c then
      have := skip_length blanks rest
      skipAfterDigits blanks (skip blanks rest)
    else c :: rest
termination_by s.length

/-- A decimal count; blanks may stand around it. -/
def readCount (blanks : Bool) (s : List Char) : Except Fault Nat × List Char :=
  let (digits, rest) := readDigits blanks (s.dropWhile isBlank)
  let value := digits.foldl (fun n c => n * 10 + (c.toNat - 48)) 0
  let count :=
    if digits.isEmpty then .error .repetitionNotDecimal
    else if value < 0x100000000 then .ok value
    else .error .decimalInvalid
  (count, skipAfterDigits blanks rest)

/-- Reads the bounds of a repetition, after its opening brace, up to the closing one. -/
def readBounds (blanks : Bool) (s : List Char) :
    Except Fault ((Nat × Option Nat) × List Char) :=
  let close (bounds : Nat × Option Nat) : List Char → Except Fault ((Nat × Option Nat) × List Char)
    | '\x7d' :: rest => .ok (bounds, rest)
    | _ => .error .repetitionUnclosed
  match skip blanks s with
  | [] => .error .repetitionUnclosed
  | s =>
    match readCount blanks s with
    | (_, []) => .error .repetitionUnclosed
    | (low, ',' :: rest) =>
      match skip blanks rest with
      | [] => .error .repetitionUnclosed
      | '\x7d' :: rest => do return ((← low, none), rest)
      | s => do
        let low ← low
        let (high, rest) := readCount blanks s
        close (low, some (← high)) rest
    | (low, rest) => do
      let low ← low
      close (low, some low) rest

/-! ## The whole expression -/

/-- What was read between an opening parenthesis and here: the branches that are done and the items
of the one that is not, both last first. -/
structure Level where
  branches : List Ast
  items : List Ast

/-- What is open around a group: the level it stands in, how it was opened, and whether blanks were
passed over before it. -/
structure Enclosing where
  level : Level
  opening : Opening
  blanks : Bool

structure Reader where
  level : Level
  outer : List Enclosing
  blanks : Bool
  names : List (List Char)

namespace Level

def start : Level := ⟨[], []⟩

def push (level : Level) (item : Ast) : Level :=
  { level with items := item :: level.items }

/-- Ends a branch. -/
def branch (level : Level) : Level :=
  ⟨.ofItems level.items :: level.branches, []⟩

def toAst (level : Level) : Ast :=
  .ofBranches (.ofItems level.items :: level.branches)

end Level

def Opening.close : Opening → Ast → Ast
  | .capture _, body => .capture body
  | .group change, body => .group change body
  | .flags change, _ => .flags change

namespace Reader

def start : Reader := ⟨.start, [], false, []⟩

def push (r : Reader) (item : Ast) : Reader :=
  { r with level := r.level.push item }

/-- Repeats the last item. -/
def repeatLast (r : Reader) (min : Nat) (max : Option Nat) : Except Fault Reader :=
  match r.level.items with
  | [] | .flags _ :: _ => .error .repetitionMissing
  | item :: items => .ok { r with level := ⟨r.level.branches, .rep min max item :: items⟩ }

/-- A question mark after a repetition, which makes it prefer less, is passed over. -/
def skipLazy : List Char → List Char
  | '?' :: rest => rest
  | s => s

/-- Opens a group or sets flags. -/
def enter (r : Reader) (opening : Opening) : Reader :=
  match opening with
  | .flags change =>
    { r.push (.flags change) with blanks := (change.state? .blanks).getD r.blanks }
  | .group change =>
    { r with
      level := .start
      outer := ⟨r.level, opening, r.blanks⟩ :: r.outer
      blanks := (change.state? .blanks).getD r.blanks }
  | .capture name =>
    { r with
      level := .start
      outer := ⟨r.level, opening, r.blanks⟩ :: r.outer
      names := name.toList ++ r.names }

/-- Closes the innermost group. -/
def close (r : Reader) : Except Fault Reader :=
  match r.outer with
  | [] => .error .unopenedGroup
  | e :: outer =>
    .ok ⟨e.level.push (e.opening.close r.level.toAst), outer, e.blanks, r.names⟩

/-- Reads the rest of a class that was opened. -/
def runClass (fuel : Nat) (blanks : Bool) (c : ClassReader) (s : List Char) :
    Except Fault (Ast × List Char) :=
  match fuel with
  | 0 => .error .classUnclosed
  | fuel + 1 => do
    match ← c.step blanks (skip blanks s) with
    | (.inl ast, rest) => return (ast, rest)
    | (.inr c, rest) => runClass fuel blanks c rest

/-- Reads a class, after its bracket. -/
def readClass (blanks : Bool) (s : List Char) : Except Fault (Ast × List Char) := do
  let (level, s) ← openClass blanks s
  runClass (s.length + 1) blanks ⟨level, []⟩ s

/-- Reads the item that starts with the given character. -/
def step (r : Reader) (c : Char) (rest : List Char) : Except Fault (Reader × List Char) :=
  match c with
  | '(' => do
    let (opening, rest) ← readOpening r.names (skip r.blanks rest)
    return (r.enter opening, rest)
  | ')' => do return (← r.close, rest)
  | '|' => .ok ({ r with level := r.level.branch }, rest)
  | '[' => do
    let (ast, rest) ← readClass r.blanks rest
    return (r.push ast, rest)
  | '?' => do return (← r.repeatLast 0 (some 1), skipLazy rest)
  | '*' => do return (← r.repeatLast 0 none, skipLazy rest)
  | '+' => do return (← r.repeatLast 1 none, skipLazy rest)
  | '\x7b' => do
    discard (r.repeatLast 0 none)
    let ((min, max), rest) ← readBounds r.blanks rest
    if max.any (· < min) then .error .repetitionInvalid
    else return (← r.repeatLast min max, skipLazy (skip r.blanks rest))
  | _ => do
    let (primitive, rest) ← readPrimitive r.blanks c rest
    return (r.push primitive.toAst, rest)

/-- Reads to the end of the text; every step takes at least one character, so the length of the
text bounds their number. -/
def run (fuel : Nat) (r : Reader) (s : List Char) : Except Fault Reader :=
  match skip r.blanks s with
  | [] => .ok r
  | c :: rest =>
    match fuel with
    | 0 => .ok r
    | fuel + 1 => do
      let (r, rest) ← r.step c rest
      run fuel r rest

end Reader

/-- The tree of an expression. -/
def read (s : List Char) : Except Fault Ast := do
  let r ← Reader.start.run s.length s
  if !r.outer.isEmpty then .error .unclosedGroup
  else
    let ast := r.level.toAst
    if nestLimit < ast.depth then .error .nestedTooDeep else return ast

end ProxyRouting.Regex
