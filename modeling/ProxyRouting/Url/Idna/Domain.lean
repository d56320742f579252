import ProxyRouting.Text.Cut
import ProxyRouting.Unicode.Category
import ProxyRouting.Unicode.Joining
import ProxyRouting.Unicode.Normal
import ProxyRouting.Unicode.Property
import ProxyRouting.Url.Idna.Bidi
import ProxyRouting.Url.Idna.Mapping
import ProxyRouting.Url.Idna.Punycode

/-!
# Domain names in ASCII

A domain name is brought into its one form in ASCII: characters are mapped, the text is composed,
and each label that is not ASCII is written in punycode after `xn--`.  A label that is so written
already has to be what would be written for its meaning.  A name with a character or label that is
not allowed has no such form.
-/

namespace ProxyRouting.Idna

/-! ## Characters -/

/-- What may not stand in a domain name: controls, the space, and the marks of URLs. -/
def isDenied (c : Char) : Bool :=
  c.toNat ≤ 0x20 || c.toNat == 0x7F || "%#/:<>?@[\\]^|".toList.contains c

/-- Maps each character; `none` if one is refused. -/
def mapAll (s : List Char) : Option (List Nat) := do
  return (← s.mapM fun c => mapCode c.toNat).flatten

/-- The mapped and composed text. -/
def mapped (s : List Char) : Option (List Char) := do
  return (Unicode.normalize (← mapAll s)).map Char.ofNat

/-- Whether a text is as mapping and composing leave it, each character kept. -/
def isStable (s : List Char) : Bool :=
  s.all (fun c => mapCode c.toNat == some [c.toNat]) &&
    Unicode.normalize (s.map Char.toNat) == s.map Char.toNat

/-! ## Labels -/

/-- Whether what is before a joiner, nearest first, and what is after it allow it. -/
def joins (joiner : Char) (before after : List Char) : Bool :=
  let afterVirama := match before with
    | c :: _ => Unicode.viramas.contains c.toNat
    | [] => false
  let next (among : List Unicode.CodeSet) (s : List Char) : Bool :=
    match s.dropWhile fun c => Unicode.joiningTransparent.contains c.toNat with
    | c :: _ => among.any (·.contains c.toNat)
    | [] => false
  afterVirama || (joiner.toNat == 0x200C &&
    next [Unicode.joiningLeft, Unicode.joiningDual] before &&
    next [Unicode.joiningRight, Unicode.joiningDual] after)

/-- Whether all joiners of a label stand where they may; `before` is what is done, nearest first. -/
def joinersAllowed (before : List Char) : List Char → Bool
  | [] => true
  | c :: rest =>
    (!Unicode.joinControl.contains c.toNat || joins c before rest) &&
      joinersAllowed (c :: before) rest

/-- Whether a label that is not ASCII is allowed, apart from directions. -/
def isAllowed (label : List Char) : Bool :=
  (match label with
    | c :: _ => !Unicode.marks.contains c.toNat
    | [] => true) && joinersAllowed [] label

def isAscii (s : List Char) : Bool :=
  s.all fun c => c.toNat < 0x80

def punycodeMark : List Char := "xn--".toList

/-- Labels have to be shorter than this to be written in punycode, and to be read from it. -/
def encodeLimit : Nat := 1000

def decodeLimit : Nat := 2000

/-- A label by its meaning and as it is written in ASCII. -/
structure Label where
  meaning : List Char
  written : List Char
  deriving Repr, DecidableEq

/-- A mapped label, if it is allowed. -/
def Label.of? (s : List Char) : Option Label :=
  match punycodeMark.isPrefixOf? s with
  | some digits =>
    if !isAscii s || decodeLimit < digits.length then none
    else do
      let meaning ← Punycode.decode digits
      if !isAscii meaning && isStable meaning && isAllowed meaning then some ⟨meaning, s⟩ else none
  | none =>
    if isAscii s then some ⟨s, s⟩
    else if isAllowed s && s.length ≤ encodeLimit then
      some ⟨s, punycodeMark ++ Punycode.encode s⟩
    else none

/-! ## Names -/

/-- The labels of a name, if each of them and all together are allowed. -/
def labels? (s : List Char) : Option (List Label) := do
  let s ← mapped s
  if s.any isDenied then none
  else
    let labels ← (Text.splitAt '.' s).mapM Label.of?
    let isBidi := labels.any fun l => l.meaning.any isRightToLeft
    if !isBidi || labels.all fun l => isOneDirection l.meaning then some labels else none

/-- A name in ASCII. -/
def toAscii (s : List Char) : Option (List Char) := do
  return ['.'].intercalate ((← labels? s).map Label.written)

end ProxyRouting.Idna
