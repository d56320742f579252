import ProxyRouting.CommandLine.Log
import ProxyRouting.Settings.Printer
import ProxyRouting.Text.Cut

/-!
# A writer of logs

Directives stand between commas, and each lets events through by where they come from:

    level               from any part of the program, of this level or above
    origin              from the parts whose names start so, of any level
    origin=level        from the parts whose names start so, of this level or above

Of the directives for the origin of an event the longest decides, and without any directive errors
are let through.  Levels may be numbers.  The lines are without the time.
-/

namespace ProxyRouting.CommandLine

/-! ## Directives -/

structure Directive where
  origin : List Char
  /-- The level from which on events are let through; `none` for no events at all. -/
  threshold : Option Level
  deriving Repr, DecidableEq

namespace Directive

def thresholds : List (String × Option Level) :=
  [("off", none), ("error", some .error), ("warn", some .warn), ("info", some .info),
    ("debug", some .debug), ("trace", some .trace), ("0", none), ("1", some .error),
    ("2", some .warn), ("3", some .info), ("4", some .debug), ("5", some .trace)]

/-- The threshold that a name stands for, in letters of either case. -/
def threshold? (name : List Char) : Option (Option Level) :=
  thresholds.lookup (String.ofList (name.map Char.toLower))

/-- Letters, digits and what joins words may stand in a name, with `:` and `-` among them. -/
def inOrigin (c : Char) : Bool :=
  if c.toNat < 0x80 then c.isAlphanum || c == '_' || c == ':' || c == '-'
  else Regex.isWord true (some c)

def isOrigin (name : List Char) : Bool :=
  !name.isEmpty && name.all inOrigin

def ofText? (text : List Char) : Option Directive :=
  match threshold? text with
  | some threshold => some ⟨[], threshold⟩
  | none =>
    let (origin, level) := (Text.cut? '=' text).getD (text, [])
    if !isOrigin origin then none
    else if level.isEmpty then some ⟨origin, some .trace⟩
    else (threshold? level).map fun threshold => ⟨origin, threshold⟩

/-- Whether the directive is for an event. -/
def isFor (d : Directive) (e : Event.Shown) : Bool :=
  d.origin.isPrefixOf e.origin.toList

def letsThrough (d : Directive) (e : Event.Shown) : Bool :=
  d.threshold.any fun level => level.rank ≤ e.level.rank

/-- The longer of two directives; of two as long as each other the later. -/
def narrower (first : Option Directive) (later : Directive) : Option Directive :=
  match first with
  | some d => if later.origin.length < d.origin.length then some d else some later
  | none => some later

/-- What some directives let through together. -/
def together (directives : List Directive) : LogFilter := fun e =>
  let directives := if directives.isEmpty then [⟨[], some .error⟩] else directives
  ((directives.filter (·.isFor e)).foldl narrower none).any (·.letsThrough e)

/-- The texts between the commas. -/
def texts (text : String) : List (List Char) :=
  (Text.splitAt ',' text.toList).filter fun part => !part.isEmpty

end Directive

/-! ## Layouts -/

/-- A character of a line; those that a terminal acts upon are written by their number. -/
def logChar (c : Char) : List Char :=
  let n := c.toNat
  if n == 0x1B || n == 0x07 || n == 0x08 || n == 0x0C || n == 0x7F then
    "\\x".toList ++ (if n < 0x10 then ['0'] else []) ++ Inspect.hex n
  else if 0x80 ≤ n && n ≤ 0x9F then "\\u\x7b".toList ++ Inspect.hex n ++ ['\x7d']
  else [c]

def logChars (text : String) : List Char :=
  text.toList.flatMap logChar

def plainLine (e : Event.Shown) : List Char :=
  e.level.name.toList ++ ' ' :: e.origin.toList ++ ':' :: ' ' :: logChars e.message ++
    (e.fields.flatMap fun f => ' ' :: f.1.toList ++ '=' :: logChars f.2) ++ ['\n']

/-- Numbers are not quoted. -/
def jsonValue (text : String) : List Char :=
  if !text.isEmpty && text.toList.all Char.isDigit then text.toList else Json.quoted text

def jsonLine (e : Event.Shown) : List Char :=
  let fields := ("message", Json.quoted e.message) :: e.fields.map fun f => (f.1, jsonValue f.2)
  writeObject [("level", Json.quoted e.level.name), ("fields", writeObject fields),
    ("target", Json.quoted e.origin)] ++ ['\n']

/-- The writer without the time of each event. -/
def LogWriter.timeless : LogWriter where
  filter? text := ((Directive.texts text).mapM Directive.ofText?).map Directive.together
  lenientFilter text := Directive.together ((Directive.texts text).filterMap Directive.ofText?)
  plain events := String.ofList (events.flatMap plainLine)
  json events := String.ofList (events.flatMap jsonLine)

end ProxyRouting.CommandLine
