import Mathlib.Data.List.TakeWhile
import ProxyRouting.Json.Reader
import ProxyRouting.Proofs.Result

/-!
# Texts of values

A value is a tree.  It is written as its tokens, one after the other, and before each of them there
may be blanks; which blanks there are says nothing.  Nothing is decoded here: a string is the pieces
that stand between its quotes, and a number the parts of its numeral.

    t.tokens = ["[", "1", ",", "true", "]"]
    Spaced t.tokens " [1, true ]"
-/

namespace ProxyRouting.Json

/-! ## Strings -/

/-- What stands for one character of a string, or for a half of one. -/
inductive Piece
  | plain (c : Char) (isPlain : 0x20 ≤ c.toNat ∧ c ≠ '"' ∧ c ≠ '\\')
  | escape (c : Char) (isEscape : c ∈ "\"\\/bfnrt".toList)
  | number (a b c d : Char) (isHex : ∀ x ∈ [a, b, c, d], (Text.hexValue? x).isSome = true)

def Piece.text : Piece → List Char
  | plain c _ => [c]
  | escape c _ => ['\\', c]
  | number a b c d _ => ['\\', 'u', a, b, c, d]

/-- A string in quotes. -/
structure Literal where
  pieces : List Piece

def Literal.text (l : Literal) : List Char :=
  '"' :: l.pieces.flatMap Piece.text ++ ['"']

/-- The literal of a text that needs no escapes. -/
def Literal.plain (s : String)
    (h : s.toList.all (fun c => decide (0x20 ≤ c.toNat ∧ c ≠ '"' ∧ c ≠ '\\')) = true) :
    Literal where
  pieces := s.toList.attach.map fun c =>
    .plain c.1 (of_decide_eq_true (List.all_eq_true.mp h c.1 c.2))

/-! ## Numbers -/

structure Digits where
  chars : List Char
  ne : chars ≠ []
  isDigit : ∀ c ∈ chars, c.isDigit = true

structure Exponent where
  mark : Char
  sign : Option Char
  digits : Digits
  mark_eq : mark = 'e' ∨ mark = 'E'
  sign_eq : ∀ c ∈ sign, c = '+' ∨ c = '-'

def Exponent.text (e : Exponent) : List Char :=
  e.mark :: (e.sign.toList ++ e.digits.chars)

/-- A number; no zero stands in front of other digits. -/
structure Numeral where
  isNegative : Bool
  whole : Digits
  fraction : Option Digits
  exponent : Option Exponent
  whole_plain : whole.chars.head? = some '0' → whole.chars = ['0']

namespace Numeral

variable (n : Numeral)

def scale : List Char :=
  (n.fraction.map fun f => '.' :: f.chars).getD [] ++ (n.exponent.map Exponent.text).getD []

def unsigned : List Char :=
  n.whole.chars ++ n.scale

def text : List Char :=
  if n.isNegative then '-' :: n.unsigned else n.unsigned

end Numeral

/-! ## Values -/

inductive Tree
  | null
  | bool (b : Bool)
  | number (n : Numeral)
  | text (l : Literal)
  | list (items : List Tree)
  | object (members : List (Literal × Tree))

/-- Items with commas between them, and what closes them. -/
def joined (isFirst : Bool) (closing : Char) : List (List (List Char)) → List (List Char)
  | [] => [[closing]]
  | item :: items =>
    (if isFirst then item else [','] :: item) ++ joined false closing items

mutual

def Tree.tokens : Tree → List (List Char)
  | .null => ["null".toList]
  | .bool b => [if b then "true".toList else "false".toList]
  | .number n => [n.text]
  | .text l => [l.text]
  | .list items => ['['] :: joined true ']' (itemTokens items)
  | .object members => ['\x7b'] :: joined true '\x7d' (memberTokens members)

def itemTokens : List Tree → List (List (List Char))
  | [] => []
  | t :: ts => t.tokens :: itemTokens ts

def memberTokens : List (Literal × Tree) → List (List (List Char))
  | [] => []
  | (name, t) :: ms => (name.text :: [':'] :: t.tokens) :: memberTokens ms

end

/-- The text of a value without blanks. -/
def Tree.compact (t : Tree) : List Char :=
  t.tokens.flatten

/-! ## Blanks -/

/-- The tokens stand in the text, each with blanks before it. -/
inductive Spaced : List (List Char) → List Char → Prop
  | nil : Spaced [] []
  | cons {blanks token s : List Char} {tokens : List (List Char)}
      (blank : ∀ c ∈ blanks, isBlank c = true) (rest : Spaced tokens s) :
      Spaced (token :: tokens) (blanks ++ (token ++ s))

/-- What may stand after a value: a blank, or a mark that goes on after it, or nothing. -/
def EndsToken (rest : List Char) : Prop :=
  ∀ c ∈ rest.head?, isBlank c = true ∨ c = ',' ∨ c = ']' ∨ c = '\x7d'

/-- A whole text holds a value, with blanks around it. -/
def Tree.IsWritten (t : Tree) (text : String) : Prop :=
  ∃ s blanks, text.toList = s ++ blanks ∧ Spaced t.tokens s ∧ ∀ c ∈ blanks, isBlank c = true

theorem dropBlanks_append {blanks : List Char} (hblanks : ∀ c ∈ blanks, isBlank c = true) {c : Char}
    (hc : isBlank c = false) (s : List Char) : dropBlanks (blanks ++ c :: s) = c :: s := by
  rw [dropBlanks, List.dropWhile_append_of_pos hblanks, List.dropWhile_cons_of_neg (by simp [hc])]

theorem dropBlanks_cons {c : Char} (h : isBlank c = false) (s : List Char) :
    dropBlanks (c :: s) = c :: s :=
  dropBlanks_append (List.forall_mem_nil _) h s

theorem isBlank_of_isDigit {c : Char} (h : c.isDigit = true) : isBlank c = false := by
  simp only [isBlank, Bool.or_eq_false_iff, beq_eq_false_iff_ne]
  refine ⟨⟨⟨?_, ?_⟩, ?_⟩, ?_⟩ <;> (rintro rfl; exact absurd h (by decide))

/-- Blanks, and what is left after them. -/
theorem blanks_of_dropBlanks {s t : List Char} (h : dropBlanks s = t) :
    ∃ blanks, s = blanks ++ t ∧ ∀ c ∈ blanks, isBlank c = true :=
  ⟨s.takeWhile isBlank, h ▸ List.takeWhile_append_dropWhile.symm, fun _ => List.mem_takeWhile_imp⟩

theorem readWord_append (word rest : List Char) : readWord word (word ++ rest) = .ok rest := by
  induction word with
  | nil => cases rest <;> rfl
  | cons w word ih => simpa [readWord] using ih

theorem eq_of_readWord {word s rest : List Char} (h : readWord word s = .ok rest) :
    s = word ++ rest := by
  induction word generalizing s with
  | nil =>
    cases h
    rfl
  | cons w word ih =>
    cases s with
    | nil => cases h
    | cons c s =>
      unfold readWord at h
      split at h
      · next hw => rw [beq_iff_eq.mp hw, ih h, List.cons_append]
      · cases h

/-! ## Spaced tokens -/

section
variable {a b tokens : List (List Char)} {token s u v : List Char}

theorem spaced_cons_iff : Spaced (token :: tokens) s ↔ ∃ blanks u, s = blanks ++ (token ++ u) ∧
    (∀ c ∈ blanks, isBlank c = true) ∧ Spaced tokens u := by
  constructor
  · intro h
    cases h with
    | cons hblanks hrest => exact ⟨_, _, rfl, hblanks, hrest⟩
  · rintro ⟨blanks, u, rfl, hblanks, hrest⟩
    exact .cons hblanks hrest

theorem Spaced.append (hu : Spaced a u) (hv : Spaced b v) : Spaced (a ++ b) (u ++ v) := by
  induction hu with
  | nil => exact hv
  | cons hblanks _ ih =>
    rw [List.append_assoc, List.append_assoc]
    exact .cons hblanks ih

theorem spaced_append_iff :
    Spaced (a ++ b) s ↔ ∃ u v, s = u ++ v ∧ Spaced a u ∧ Spaced b v := by
  constructor
  · intro h
    induction a generalizing s with
    | nil => exact ⟨[], s, rfl, .nil, h⟩
    | cons token a ih =>
      obtain ⟨blanks, t, rfl, hblanks, hrest⟩ := spaced_cons_iff.mp h
      obtain ⟨u, v, rfl, hu, hv⟩ := ih hrest
      exact ⟨blanks ++ (token ++ u), v, by simp, .cons hblanks hu, hv⟩
  · rintro ⟨u, v, rfl, hu, hv⟩
    exact hu.append hv

theorem spaced_flatten (tokens : List (List Char)) : Spaced tokens tokens.flatten := by
  induction tokens with
  | nil => exact .nil
  | cons token tokens ih =>
    show Spaced (token :: tokens) ([] ++ (token ++ tokens.flatten))
    exact .cons (List.forall_mem_nil _) ih

/-- More blanks may stand before the first token. -/
theorem Spaced.blanks_append {blanks : List Char} (hblanks : ∀ c ∈ blanks, isBlank c = true)
    (hne : tokens ≠ []) (h : Spaced tokens s) : Spaced tokens (blanks ++ s) := by
  obtain ⟨token, tokens, rfl⟩ := List.exists_cons_of_ne_nil hne
  obtain ⟨more, u, rfl, hmore, hrest⟩ := spaced_cons_iff.mp h
  rw [← List.append_assoc]
  refine .cons (fun c hc => ?_) hrest
  rcases List.mem_append.mp hc with hc | hc
  · exact hblanks c hc
  · exact hmore c hc

/-- The first token, and what stands after it. -/
theorem exists_of_spaced {c : Char} {more : List Char} (hc : isBlank c = false)
    (h : Spaced ((c :: more) :: tokens) s) : ∃ u, Spaced tokens u ∧ u.length < s.length ∧
      ∀ rest, dropBlanks (s ++ rest) = c :: (more ++ (u ++ rest)) := by
  obtain ⟨blanks, u, rfl, hblanks, hu⟩ := spaced_cons_iff.mp h
  refine ⟨u, hu, by simp only [List.length_append, List.length_cons]; omega, fun rest => ?_⟩
  have htext : blanks ++ (c :: more ++ u) ++ rest = blanks ++ c :: (more ++ (u ++ rest)) := by simp
  rw [htext, dropBlanks_append hblanks hc]

end

/-! ## First characters -/

/-- A text from its first token on. -/
theorem exists_from_first {c : Char} {more s : List Char} {tokens : List (List Char)}
    (hblank : isBlank c = false) (h : Spaced ((c :: more) :: tokens) s) :
    ∃ v, Spaced ((c :: more) :: tokens) (c :: v) ∧ (c :: v).length ≤ s.length ∧
      ∀ rest, dropBlanks (s ++ rest) = c :: (v ++ rest) := by
  obtain ⟨blanks, u, rfl, hblanks, hu⟩ := spaced_cons_iff.mp h
  have htext (rest : List Char) :
      blanks ++ (c :: more ++ u) ++ rest = blanks ++ c :: (more ++ u ++ rest) := by simp
  refine ⟨more ++ u, .cons (List.forall_mem_nil _) hu, by simp, fun rest => ?_⟩
  rw [htext, dropBlanks_append hblanks hblank]

/-- The first character is none that may stand after a value. -/
def Opens (tokens : List (List Char)) : Prop :=
  ∃ c more rest, tokens = (c :: more) :: rest ∧ isBlank c = false ∧ c ≠ ',' ∧ c ≠ ']' ∧ c ≠ '\x7d'

theorem Opens.exists_of_spaced {tokens : List (List Char)} (h : Opens tokens) {s : List Char}
    (hs : Spaced tokens s) : ∃ c v, Spaced tokens (c :: v) ∧ (c :: v).length ≤ s.length ∧
      (∀ rest, dropBlanks (s ++ rest) = c :: (v ++ rest)) ∧ c ≠ ',' ∧ c ≠ ']' ∧ c ≠ '\x7d' := by
  obtain ⟨c, more, tokens, rfl, hblank, hc⟩ := h
  obtain ⟨v, hv, hlength, hdrop⟩ := exists_from_first hblank hs
  exact ⟨c, v, hv, hlength, hdrop, hc⟩

theorem Numeral.exists_text (n : Numeral) : ∃ c more, n.text = c :: more ∧
    (c = '-' ∧ n.isNegative = true ∧ more = n.unsigned ∨
      c.isDigit = true ∧ n.isNegative = false ∧ c :: more = n.unsigned) := by
  obtain ⟨isNegative, ⟨chars, ne, isDigit⟩, fraction, exponent, hplain⟩ := n
  obtain ⟨d, ds, rfl⟩ := List.exists_cons_of_ne_nil ne
  cases isNegative with
  | true => exact ⟨'-', _, rfl, .inl ⟨rfl, rfl, rfl⟩⟩
  | false => exact ⟨d, _, rfl, .inr ⟨isDigit d List.mem_cons_self, rfl, rfl⟩⟩

def Tree.first : Tree → Char
  | .null => 'n'
  | .bool true => 't'
  | .bool false => 'f'
  | .number n => n.text.headD '-'
  | .text _ => '"'
  | .list _ => '['
  | .object _ => '\x7b'

theorem first_number (n : Numeral) :
    (Tree.number n).first = '-' ∨ (Tree.number n).first.isDigit = true := by
  obtain ⟨c, more, htext, hc⟩ := n.exists_text
  rw [Tree.first, htext]
  exact hc.imp And.left And.left

theorem first_number_ne (n : Numeral) {c : Char} (hminus : c ≠ '-') (hc : c.isDigit = false) :
    (Tree.number n).first ≠ c := by
  intro h
  rcases first_number n with hfirst | hfirst
  · exact hminus (h.symm.trans hfirst)
  · rw [h, hc] at hfirst
    cases hfirst

theorem Tree.eq_object_of_first {t : Tree} (h : t.first = '\x7b') : ∃ ms, t = .object ms := by
  cases t with
  | object ms => exact ⟨ms, rfl⟩
  | number n => exact absurd h (first_number_ne n (by decide) (by decide))
  | bool b => cases b <;> simp [first] at h
  | null | text l | list items => simp [first] at h

theorem Tree.exists_tokens (t : Tree) : ∃ more rest, t.tokens = (t.first :: more) :: rest := by
  cases t with
  | bool b => cases b <;> exact ⟨_, _, rfl⟩
  | number n =>
    obtain ⟨c, more, htext, -⟩ := n.exists_text
    exact ⟨more, [], by rw [Tree.tokens, Tree.first, htext]; rfl⟩
  | null | text l | list items | object members => exact ⟨_, _, rfl⟩

theorem Tree.tokens_ne_nil (t : Tree) : t.tokens ≠ [] := by
  obtain ⟨more, rest, htokens⟩ := t.exists_tokens
  simp [htokens]

theorem Tree.first_spec (t : Tree) :
    isBlank t.first = false ∧ t.first ≠ ',' ∧ t.first ≠ ']' ∧ t.first ≠ '\x7d' := by
  cases t with
  | number n =>
    have hne (c : Char) (hminus : c ≠ '-') (hc : c.isDigit = false) := first_number_ne n hminus hc
    refine ⟨?_, hne ',' (by decide) (by decide), hne ']' (by decide) (by decide),
      hne '\x7d' (by decide) (by decide)⟩
    rcases first_number n with hfirst | hfirst
    · rw [hfirst]
      decide
    · exact isBlank_of_isDigit hfirst
  | bool b => cases b <;> simp [first, isBlank]
  | null | text l | list items | object members => simp [first, isBlank]

theorem Literal.opens (l : Literal) (tokens : List (List Char)) : Opens (l.text :: tokens) :=
  ⟨'"', _, _, rfl, by decide⟩

theorem Tree.opens (t : Tree) : Opens t.tokens := by
  obtain ⟨more, rest, htokens⟩ := t.exists_tokens
  exact ⟨t.first, more, rest, htokens, t.first_spec⟩

/-- The text of a value from its first character on. -/
theorem Tree.exists_of_spaced {t : Tree} {s : List Char} (h : Spaced t.tokens s) :
    ∃ v, Spaced t.tokens (t.first :: v) ∧ (t.first :: v).length ≤ s.length ∧
      ∀ rest, dropBlanks (s ++ rest) = t.first :: (v ++ rest) := by
  obtain ⟨more, rest, htokens⟩ := t.exists_tokens
  rw [htokens] at h ⊢
  exact exists_from_first t.first_spec.1 h

/-! ## Items -/

theorem itemTokens_eq (ts : List Tree) : itemTokens ts = ts.map Tree.tokens := by
  induction ts with
  | nil => rfl
  | cons t ts ih => rw [itemTokens, ih, List.map_cons]

theorem memberTokens_eq (ms : List (Literal × Tree)) :
    memberTokens ms = ms.map fun m => m.1.text :: [':'] :: m.2.tokens := by
  induction ms with
  | nil => rfl
  | cons m ms ih =>
    obtain ⟨l, t⟩ := m
    rw [memberTokens, ih, List.map_cons]

theorem joined_cons (isFirst : Bool) (closing : Char) (item : List (List Char))
    (items : List (List (List Char))) : joined isFirst closing (item :: items) =
      (if isFirst then item else [','] :: item) ++ joined false closing items :=
  rfl

/-- After a value there is a comma or what closes the items. -/
theorem endsToken_of_joined {closing : Char} (hclosing : closing = ']' ∨ closing = '\x7d')
    {items : List (List (List Char))} {s : List Char}
    (h : Spaced (joined false closing items) s) (rest : List Char) : EndsToken (s ++ rest) := by
  have hfirst : ∃ c tokens, Spaced ([c] :: tokens) s ∧ (c = ',' ∨ c = ']' ∨ c = '\x7d') := by
    cases items with
    | nil => exact ⟨closing, [], h, .inr hclosing⟩
    | cons item items => exact ⟨',', _, h, .inl rfl⟩
  obtain ⟨c, tokens, hspaced, hc⟩ := hfirst
  obtain ⟨blanks, u, rfl, hblanks, -⟩ := spaced_cons_iff.mp hspaced
  intro d hd
  cases blanks with
  | nil =>
    cases hd
    exact .inr hc
  | cons b blanks =>
    cases hd
    exact .inl (hblanks _ List.mem_cons_self)

/-- Values are built of smaller ones. -/
theorem Tree.induction {P : Tree → Prop} (null : P .null) (bool : ∀ b, P (.bool b))
    (number : ∀ n, P (.number n)) (text : ∀ l, P (.text l))
    (list : ∀ items, (∀ t ∈ items, P t) → P (.list items))
    (object : ∀ members, (∀ m ∈ members, P m.2) → P (.object members)) : ∀ t, P t
  | .null => null
  | .bool b => bool b
  | .number n => number n
  | .text l => text l
  | .list items => list items fun t _ => Tree.induction null bool number text list object t
  | .object members => object members fun m _ =>
      have : sizeOf m.2 < sizeOf m := by
        obtain ⟨l, t⟩ := m
        simp only [Prod.mk.sizeOf_spec]
        omega
      Tree.induction null bool number text list object m.2
termination_by t => sizeOf t
decreasing_by
  · have := List.sizeOf_lt_of_mem ‹t ∈ items›
    simp only [Tree.list.sizeOf_spec]
    omega
  · have := List.sizeOf_lt_of_mem ‹m ∈ members›
    simp only [Tree.object.sizeOf_spec]
    omega

/-! ## Deciding where a value is written -/

/-- Reads tokens with blanks before each. -/
def readTokens : List (List Char) → List Char → Except Error (List Char)
  | [], s => .ok s
  | token :: tokens, s => do readTokens tokens (← readWord token (dropBlanks s))

theorem exists_of_readTokens {tokens : List (List Char)} {s rest : List Char}
    (h : readTokens tokens s = .ok rest) : ∃ w, s = w ++ rest ∧ Spaced tokens w := by
  induction tokens generalizing s with
  | nil =>
    cases h
    exact ⟨[], rfl, .nil⟩
  | cons token tokens ih =>
    obtain ⟨u, hu, hrest⟩ := bind_ok_iff.mp h
    obtain ⟨blanks, rfl, hblanks⟩ := blanks_of_dropBlanks (eq_of_readWord hu)
    obtain ⟨w, rfl, hw⟩ := ih hrest
    exact ⟨blanks ++ (token ++ w), by simp, .cons hblanks hw⟩

/-- Tokens that start with no blank are found where they stand. -/
theorem readTokens_append {tokens : List (List Char)} {w : List Char} (h : Spaced tokens w)
    (hopen : ∀ token ∈ tokens, ∃ c more, token = c :: more ∧ isBlank c = false)
    (rest : List Char) : readTokens tokens (w ++ rest) = .ok rest := by
  induction h with
  | nil => rfl
  | @cons blanks token s tokens hblanks _ ih =>
    obtain ⟨⟨c, more, rfl, hc⟩, hopen'⟩ := List.forall_mem_cons.mp hopen
    have htext : blanks ++ (c :: more ++ s) ++ rest = blanks ++ c :: (more ++ (s ++ rest)) := by
      simp
    rw [readTokens, htext, dropBlanks_append hblanks hc, ← List.cons_append, readWord_append]
    exact ih hopen'

theorem forall_joined {P : List Char → Prop} {closing : Char} (hcomma : P [','])
    (hclosing : P [closing]) {items : List (List (List Char))}
    (hitems : ∀ item ∈ items, ∀ token ∈ item, P token) (isFirst : Bool) :
    ∀ token ∈ joined isFirst closing items, P token := by
  induction items generalizing isFirst with
  | nil => simpa [joined] using hclosing
  | cons item items ih =>
    obtain ⟨hitem, hitems'⟩ := List.forall_mem_cons.mp hitems
    intro token htoken
    rcases List.mem_append.mp htoken with hmem | hmem
    · cases isFirst with
      | true => exact hitem token hmem
      | false =>
        rcases List.mem_cons.mp hmem with rfl | hmem
        · exact hcomma
        · exact hitem token hmem
    · exact ih hitems' false token hmem

theorem Tree.forall_token (t : Tree) :
    ∀ token ∈ t.tokens, ∃ c more, token = c :: more ∧ isBlank c = false := by
  have hmark (c : Char) (hc : isBlank c = false) : ∃ d more, [c] = d :: more ∧ isBlank d = false :=
    ⟨c, [], rfl, hc⟩
  have hscalar {t : Tree} {token : List Char} (ht : t.tokens = [token]) :
      ∀ token ∈ t.tokens, ∃ c more, token = c :: more ∧ isBlank c = false := by
    obtain ⟨more, rest, htokens⟩ := t.exists_tokens
    rw [ht] at htokens ⊢
    cases htokens
    simpa using t.first_spec.1
  induction t using Tree.induction with
  | null => exact hscalar rfl
  | bool b => exact hscalar rfl
  | number n => exact hscalar rfl
  | text l => exact hscalar rfl
  | list items ih =>
    rw [Tree.tokens, itemTokens_eq]
    refine List.forall_mem_cons.mpr ⟨hmark '[' (by decide), ?_⟩
    refine forall_joined (hmark ',' (by decide)) (hmark ']' (by decide)) (fun item hitem => ?_) true
    obtain ⟨t, ht, rfl⟩ := List.mem_map.mp hitem
    exact ih t ht
  | object members ih =>
    rw [Tree.tokens, memberTokens_eq]
    refine List.forall_mem_cons.mpr ⟨hmark '\x7b' (by decide), ?_⟩
    refine forall_joined (hmark ',' (by decide)) (hmark '\x7d' (by decide)) (fun item hitem => ?_)
      true
    obtain ⟨m, hm, rfl⟩ := List.mem_map.mp hitem
    refine List.forall_mem_cons.mpr ⟨⟨'"', _, rfl, by decide⟩, ?_⟩
    exact List.forall_mem_cons.mpr ⟨hmark ':' (by decide), ih m hm⟩

theorem Tree.isWritten_iff {t : Tree} {text : String} : t.IsWritten text ↔
    (readTokens t.tokens text.toList).toOption.any (fun rest => rest.all isBlank) = true := by
  rw [Option.any_eq_true]
  constructor
  · rintro ⟨s, blanks, htext, hs, hblanks⟩
    refine ⟨blanks, ?_, List.all_eq_true.mpr hblanks⟩
    rw [htext, readTokens_append hs t.forall_token]
    rfl
  · rintro ⟨blanks, hrest, hblanks⟩
    obtain ⟨s, htext, hs⟩ := exists_of_readTokens (toOption_eq_some_iff.mp hrest)
    exact ⟨s, blanks, htext, hs, List.all_eq_true.mp hblanks⟩

instance (t : Tree) (text : String) : Decidable (t.IsWritten text) :=
  decidable_of_iff _ Tree.isWritten_iff.symm

end ProxyRouting.Json
