import ProxyRouting.Regex.Basic
import ProxyRouting.Regex.Property
import ProxyRouting.Regex.Reader
import ProxyRouting.Unicode.CaseFold

/-!
# What a written expression means

`Ast.meaning` resolves flags, classes and properties.  Flags hold from where they are set to the
end of the group, also across its branches, so the flags are handed on from item to item.

Without the flag `u` classes are sets of bytes.  Such a set may hold ASCII only, or an expression
could match a part of a character; that is a fault of its own.
-/

namespace ProxyRouting.Regex

open Unicode (CodeSet)

structure Flags where
  caseInsensitive : Bool
  multiLine : Bool
  dotNewLine : Bool
  unicode : Bool
  carriageReturn : Bool
  deriving Repr, DecidableEq

namespace Flags

def initial : Flags := ⟨false, false, false, true, false⟩

/-- The flags after a change; those that it does not name stay. -/
def apply (flags : Flags) (change : FlagChange) : Flags :=
  ⟨(change.state? .caseInsensitive).getD flags.caseInsensitive,
    (change.state? .multiLine).getD flags.multiLine,
    (change.state? .dotNewLine).getD flags.dotNewLine,
    (change.state? .unicode).getD flags.unicode,
    (change.state? .carriageReturn).getD flags.carriageReturn⟩

/-- Closes a set under changes of case where the flags say so. -/
def fold (flags : Flags) (s : CodeSet) : CodeSet :=
  if !flags.caseInsensitive then s
  else if flags.unicode then s.caseFold
  else s.asciiCaseFold

end Flags

/-! ## Classes -/

/-- All bytes. -/
def byteSet : CodeSet := .ofRanges [(0, 0xFF)]

/-- The complement, among code points or among bytes. -/
def negate (flags : Flags) (s : CodeSet) : CodeSet :=
  if flags.unicode then s.complement else byteSet.diff s

/-- A set of bytes has to stay within ASCII. -/
def checked (flags : Flags) (s : CodeSet) : Except Fault CodeSet :=
  if flags.unicode || s.isBelow 0x80 then .ok s else .error .invalidUtf8

def ShortClass.set (kind : ShortClass) (unicode : Bool) : CodeSet :=
  match kind with
  | digit => if unicode then Unicode.decimalDigits else .ofRanges [(0x30, 0x39)]
  | space =>
    if unicode then Unicode.whiteSpace else .ofRanges [(0x09, 0x0D), (0x20, 0x20)]
  | word => if unicode then wordSet else asciiWordSet

def AsciiClass.set : AsciiClass → CodeSet
  | alnum => .ofRanges [(0x30, 0x39), (0x41, 0x5A), (0x61, 0x7A)]
  | alpha => .ofRanges [(0x41, 0x5A), (0x61, 0x7A)]
  | ascii => .ofRanges [(0x00, 0x7F)]
  | blank => .ofRanges [(0x09, 0x09), (0x20, 0x20)]
  | cntrl => .ofRanges [(0x00, 0x1F), (0x7F, 0x7F)]
  | digit => .ofRanges [(0x30, 0x39)]
  | graph => .ofRanges [(0x21, 0x7E)]
  | lower => .ofRanges [(0x61, 0x7A)]
  | print => .ofRanges [(0x20, 0x7E)]
  | punct => .ofRanges [(0x21, 0x2F), (0x3A, 0x40), (0x5B, 0x60), (0x7B, 0x7E)]
  | space => .ofRanges [(0x09, 0x0D), (0x20, 0x20)]
  | upper => .ofRanges [(0x41, 0x5A)]
  | word => asciiWordSet
  | xdigit => .ofRanges [(0x30, 0x39), (0x41, 0x46), (0x61, 0x66)]

def shortSet (flags : Flags) (kind : ShortClass) (negated : Bool) : Except Fault CodeSet :=
  let s := kind.set flags.unicode
  checked flags (if negated then negate flags s else s)

/-- Folds the case of a set, then negates it if asked to. -/
def foldNegate (flags : Flags) (negated : Bool) (s : CodeSet) : Except Fault CodeSet :=
  let s := flags.fold s
  checked flags (if negated then negate flags s else s)

def propertySet (flags : Flags) (name : PropertyName) (negated : Bool) : Except Fault CodeSet :=
  if !flags.unicode then .error .unicodeNotAllowed
  else do foldNegate flags negated (← name.set)

/-- The character that a literal stands for.  Without `u`, two digits above `7F` are a byte that is
no character. -/
def Literal.resolve (flags : Flags) (lit : Literal) : Except Fault Char :=
  if !flags.unicode && lit.isByte && 0x7F < lit.char.toNat then .error .invalidUtf8
  else .ok lit.char

/-- The number of a literal in a class; bytes cannot be other than ASCII. -/
def Literal.classCode (flags : Flags) (lit : Literal) : Except Fault Nat := do
  let c ← lit.resolve flags
  if flags.unicode || c.toNat < 0x80 then return c.toNat else .error .unicodeNotAllowed

/-- The characters of the inside of a class. -/
def ClassAst.set (flags : Flags) : ClassAst → Except Fault CodeSet
  | empty => .ok .empty
  | literal lit => do
    let n ← lit.classCode flags
    return .ofRanges [(n, n)]
  | range low high => do
    let a ← low.classCode flags
    let b ← high.classCode flags
    return .ofRanges [(a, b)]
  | ascii kind negated => foldNegate flags negated kind.set
  | short kind negated => shortSet flags kind negated
  | property name negated => propertySet flags name negated
  | bracket negated inside => do foldNegate flags negated (← inside.set flags)
  | union a b => do
    let s ← a.set flags
    let t ← b.set flags
    return s.union t
  | op kind a b => do
    let s := flags.fold (← a.set flags)
    let t := flags.fold (← b.set flags)
    return match kind with
      | .inter => s.inter t
      | .diff => s.diff t
      | .symmDiff => s.symmDiff t

/-! ## Expressions -/

/-- A single character, or those that differ from it in case. -/
def literalRegex (flags : Flags) (c : Char) : Regex :=
  if !flags.caseInsensitive then .char c
  else if flags.unicode then
    match Unicode.foldOrbit c.toNat with
    | [_] => .char c
    | orbit => .set (.ofCodes orbit)
  else if c.isAlpha then .set (.ofCodes [c.toLower.toNat, c.toUpper.toNat])
  else .char c

/-- Any character, or any but those that end a line. -/
def dotRegex (flags : Flags) : Except Fault Regex :=
  if !flags.unicode then .error .invalidUtf8
  else if flags.dotNewLine then .ok (.set .full)
  else if flags.carriageReturn then .ok (.set (CodeSet.ofCodes [0x0A, 0x0D]).complement)
  else .ok (.set (CodeSet.ofCodes [0x0A]).complement)

def Assertion.look (flags : Flags) : Assertion → Look
  | startLine =>
    if !flags.multiLine then .startText
    else if flags.carriageReturn then .startLineCr else .startLine
  | endLine =>
    if !flags.multiLine then .endText
    else if flags.carriageReturn then .endLineCr else .endLine
  | startText => .startText
  | endText => .endText
  | wordBoundary => .wordBoundary flags.unicode
  | notWordBoundary => .notWordBoundary flags.unicode
  | wordStart => .wordStart flags.unicode
  | wordEnd => .wordEnd flags.unicode
  | wordStartHalf => .wordStartHalf flags.unicode
  | wordEndHalf => .wordEndHalf flags.unicode

/-- What an expression means under some flags, and the flags after it. -/
def Ast.meaning (flags : Flags) : Ast → Except Fault (Regex × Flags)
  | empty => .ok (.empty, flags)
  | Ast.flags change => .ok (.empty, flags.apply change)
  | literal lit => do
    let c ← lit.resolve flags
    return (literalRegex flags c, flags)
  | dot => do return (← dotRegex flags, flags)
  | assertion a => .ok (.look (a.look flags), flags)
  | short kind negated => do return (.set (← shortSet flags kind negated), flags)
  | property name negated => do return (.set (← propertySet flags name negated), flags)
  | bracket negated inside => do
    return (.set (← foldNegate flags negated (← inside.set flags)), flags)
  | rep min max body => do
    let (r, after) ← body.meaning flags
    return (repeated min max r, after)
  | capture body => do
    let (r, _) ← body.meaning flags
    return (.capture r, flags)
  | group change body => do
    let (r, _) ← body.meaning (flags.apply change)
    return (r, flags)
  | seq a b => do
    let (r, flags) ← a.meaning flags
    let (s, flags) ← b.meaning flags
    return (.seq r s, flags)
  | alt a b => do
    let (r, flags) ← a.meaning flags
    let (s, flags) ← b.meaning flags
    return (.alt r s, flags)

/-- What an expression means, from its text. -/
def ofText (s : List Char) : Except Fault Regex := do
  let (r, _) ← (← read s).meaning .initial
  return r

end ProxyRouting.Regex
