import ProxyRouting.Regex.Fault

/-!
# Regular expressions as written

The tree that reading an expression gives.  Flags are still items of it, and named properties are
still names; `Regex.Meaning` resolves both.  Sequences, alternations and the items of a class are
nested to the right: `seq a (seq b c)` is one sequence of three, since an item that is a sequence
itself always stands in a group.
-/

namespace ProxyRouting.Regex

/-- Flags that an expression can set; the ones for greed and for blanks are read but have no
bearing on what matches. -/
inductive Flag
  | caseInsensitive
  | multiLine
  | dotNewLine
  | swapGreed
  | unicode
  | carriageReturn
  | blanks
  deriving Repr, DecidableEq

/-- Flags in the order written, each with the state that it gets. -/
abbrev FlagChange := List (Flag × Bool)

/-- The state that a change gives to a flag, if it names it. -/
def FlagChange.state? (change : FlagChange) (flag : Flag) : Option Bool :=
  List.lookup flag change

/-- A character of the expression; `isByte` if it was written as two hexadecimal digits. -/
structure Literal where
  char : Char
  isByte : Bool
  deriving Repr, DecidableEq

def Literal.verbatim (c : Char) : Literal := ⟨c, false⟩

/-- Conditions on a position. -/
inductive Assertion
  | startLine
  | endLine
  | startText
  | endText
  | wordBoundary
  | notWordBoundary
  | wordStart
  | wordEnd
  | wordStartHalf
  | wordEndHalf
  deriving Repr, DecidableEq

/-- Classes with a letter of their own: `\d`, `\s`, `\w`. -/
inductive ShortClass
  | digit
  | space
  | word
  deriving Repr, DecidableEq

/-- Classes of ASCII characters, such as `[:alpha:]`. -/
inductive AsciiClass
  | alnum
  | alpha
  | ascii
  | blank
  | cntrl
  | digit
  | graph
  | lower
  | print
  | punct
  | space
  | upper
  | word
  | xdigit
  deriving Repr, DecidableEq

/-- A property of characters as it was named: alone, or as a name and a value. -/
inductive PropertyName
  | single (name : List Char)
  | valued (name value : List Char)
  deriving Repr, DecidableEq

inductive SetOp
  | inter
  | diff
  | symmDiff
  deriving Repr, DecidableEq

/-- The inside of a bracketed class. -/
inductive ClassAst
  | empty
  | literal (lit : Literal)
  | range (low high : Literal)
  | ascii (kind : AsciiClass) (negated : Bool)
  | short (kind : ShortClass) (negated : Bool)
  | property (name : PropertyName) (negated : Bool)
  | bracket (negated : Bool) (inside : ClassAst)
  | union (a b : ClassAst)
  | op (kind : SetOp) (a b : ClassAst)
  deriving Repr, DecidableEq

inductive Ast
  | empty
  | flags (change : FlagChange)
  | literal (lit : Literal)
  | dot
  | assertion (a : Assertion)
  | short (kind : ShortClass) (negated : Bool)
  | property (name : PropertyName) (negated : Bool)
  | bracket (negated : Bool) (inside : ClassAst)
  | rep (min : Nat) (max : Option Nat) (body : Ast)
  | capture (body : Ast)
  | group (change : FlagChange) (body : Ast)
  | seq (a b : Ast)
  | alt (a b : Ast)
  deriving Repr, DecidableEq

/-! ## Building -/

/-- The class of the given items, last first. -/
def ClassAst.ofItems : List ClassAst → ClassAst
  | [] => .empty
  | last :: rest => rest.foldl (fun acc item => .union item acc) last

/-- The sequence of the given items, last first. -/
def Ast.ofItems : List Ast → Ast
  | [] => .empty
  | last :: rest => rest.foldl (fun acc item => .seq item acc) last

/-- The alternation of the given branches, last first. -/
def Ast.ofBranches : List Ast → Ast
  | [] => .empty
  | last :: rest => rest.foldl (fun acc branch => .alt branch acc) last

/-! ## Depth -/

/-- How deep brackets, unions and set operations nest. -/
def ClassAst.depth : ClassAst → Nat
  | .bracket _ inside => inside.depth + 1
  | .union a b =>
    match b with
    | .union .. => max (a.depth + 1) b.depth
    | _ => max a.depth b.depth + 1
  | .op _ a b => max a.depth b.depth + 1
  | _ => 0

/-- How deep groups, classes, repetitions, sequences and alternations nest. -/
def Ast.depth : Ast → Nat
  | .bracket _ inside => inside.depth + 1
  | .rep _ _ body => body.depth + 1
  | .capture body => body.depth + 1
  | .group _ body => body.depth + 1
  | .seq a b =>
    match b with
    | .seq .. => max (a.depth + 1) b.depth
    | _ => max a.depth b.depth + 1
  | .alt a b =>
    match b with
    | .alt .. => max (a.depth + 1) b.depth
    | _ => max a.depth b.depth + 1
  | _ => 0

end ProxyRouting.Regex
