import ProxyRouting.Proofs.Destination.Selection
import ProxyRouting.Proofs.ProxyVariable.Login
import ProxyRouting.Proofs.Text.Blank
import ProxyRouting.Proofs.Url.Host

/-!
# Proxy variables, as they are written

A value put together from a scheme, credentials, host and port.  Scheme and credentials may be
missing, and a path or query may follow.  The credentials are encoded, so that nothing of them ends
the authority, and none of its marks is theirs.

    text = before ++ [scheme ++ "://"] ++ [encoded user ++ ":" ++ encoded password ++ "@"] ++
      host ++ ":" ++ port ++ tail ++ after                               (before and after blank)
-/

namespace ProxyRouting.ProxyVariable

open Text (cutAt? trimRight isBlank)
open Destination (authorityMark isDelimiter withoutBrackets IsSchemeToken)
open Url (IsPlainName IsHostText)
open Url.Percent (encodeAll)

/-- What stands before the credentials. -/
inductive Opening
  | bare
  | slashes
  | schemed (scheme : List Char) (isToken : IsSchemeToken scheme) (ne : scheme ≠ "file".toList)

namespace Opening

def text : Opening → List Char
  | bare => []
  | slashes => ['/', '/']
  | schemed scheme _ _ => scheme ++ authorityMark

def scheme : Opening → List Char
  | bare | slashes => "http".toList
  | schemed scheme _ _ => scheme

end Opening

/-- A host by its name or its address. -/
inductive HostSpelling
  | name (text : List Char) (isPlain : IsPlainName text)
  | address (a : Url.Ipv6) (isWords : ∀ n ∈ a.groups.toList, n < 65536)

namespace HostSpelling

def host : HostSpelling → Url.Host
  | name text _ => .name text
  | address a _ => .ipv6 a

/-- The host without brackets. -/
def bare : HostSpelling → List Char
  | name text _ => text
  | address a _ => a.text

end HostSpelling

structure Written where
  before : List Char
  opening : Opening
  /-- Username and password, not yet encoded; both may be empty. -/
  login : Option (List Char × List Char)
  host : HostSpelling
  port : UInt16
  tail : List Char
  after : List Char
  before_blank : ∀ c ∈ before, isBlank c = true
  after_blank : ∀ c ∈ after, isBlank c = true
  port_ne : port ≠ 0
  tail_delimited : ∀ c ∈ tail.head?, isDelimiter c = true
  /-- Without a scheme another mark would be taken for the end of one. -/
  tail_unmarked : opening = .bare ∨ opening = .slashes → ¬ authorityMark <:+: tail

/-! ## Characters -/

/-- What an authority is written with. -/
def isAuthorityChar (c : Char) : Bool :=
  c.isAlphanum || "-._~%:@[]".toList.contains c

theorem isAuthorityChar_of_isAlphanum {c : Char} (h : c.isAlphanum = true) :
    isAuthorityChar c = true := by
  rw [isAuthorityChar, h, Bool.true_or]

theorem toNat_lt_of_isAuthorityChar {c : Char} (h : isAuthorityChar c = true) :
    c.toNat < 0x80 := by
  unfold isAuthorityChar at h
  rcases Bool.or_eq_true_iff.mp h with h | h
  · have hscheme : Url.isSchemeChar c = true := by simp [Url.isSchemeChar, h]
    have := Url.toNat_of_isSchemeChar hscheme
    omega
  · have hall : ∀ d ∈ "-._~%:@[]".toList, d.toNat < 0x80 := by simp
    exact hall c (List.contains_iff_mem.mp h)

/-- A character that is kept in an authority and does not end it. -/
structure IsInner (c : Char) : Prop where
  not_end : Url.isAuthorityEnd true c = false
  not_dropped : Url.isDropped c = false
  not_stripped : Url.isBlank c = false
  not_trimmed : isBlank c = false

theorem IsInner.ne_slash {c : Char} (h : IsInner c) : c ≠ '/' := by
  rintro rfl
  exact absurd h.not_end (by decide)

theorem isInner_of_isAuthorityChar {c : Char} (h : isAuthorityChar c = true) : IsInner c := by
  let P (c : Char) : Prop := isAuthorityChar c = true → Url.isAuthorityEnd true c = false ∧
    Url.isDropped c = false ∧ Url.isBlank c = false ∧ isBlank c = false
  have hall : P c := Text.forall_ascii (P := P) (by decide +kernel) (toNat_lt_of_isAuthorityChar h)
  obtain ⟨hend, hdropped, hstripped, htrimmed⟩ := hall h
  exact ⟨hend, hdropped, hstripped, htrimmed⟩

theorem isAuthorityChar_of_hexValue? {c : Char} (h : (Text.hexValue? c).isSome = true) :
    isAuthorityChar c = true ∧ c ≠ '@' ∧ c ≠ ']' := by
  let P (c : Char) : Prop := (Text.hexValue? c).isSome = true →
    isAuthorityChar c = true ∧ c ≠ '@' ∧ c ≠ ']'
  obtain ⟨n, hn⟩ := Option.isSome_iff_exists.mp h
  have hall : P c := Text.forall_ascii (P := P) (by decide +kernel)
    (Url.Percent.toNat_lt_of_hexValue? hn)
  exact hall h

/-- What is encoded has no mark of an authority. -/
theorem isAuthorityChar_of_mem_encodeAll {s : List Char} {c : Char} (h : c ∈ encodeAll s) :
    isAuthorityChar c = true ∧ c ≠ ':' := by
  rcases Url.Percent.isReserved_of_mem_encodeAll h with rfl | h
  · decide
  · simp only [Url.Percent.isReserved, Bool.not_eq_false', Bool.or_eq_true] at h
    rcases h with h | h
    · refine ⟨isAuthorityChar_of_isAlphanum h, ?_⟩
      rintro rfl
      exact absurd h (by decide)
    · have hall : ∀ d ∈ "-._~".toList, isAuthorityChar d = true ∧ d ≠ ':' := by simp [isAuthorityChar]
      exact hall c (List.contains_iff_mem.mp h)

namespace HostSpelling

variable (h : HostSpelling)

def text : List Char :=
  h.host.text

theorem text_chars : ∀ c ∈ h.text, isAuthorityChar c = true ∧ c ≠ '@' := by
  intro c hc
  cases h with
  | name text isPlain =>
    let P (c : Char) : Prop := c.isLower = true ∨ c.isDigit = true ∨ c = '-' ∨ c = '.' →
      isAuthorityChar c = true ∧ c ≠ '@'
    have hall : P c := Text.forall_ascii (P := P) (by decide +kernel) (isPlain.isPlainText.toNat_lt hc)
    exact hall (isPlain.chars c hc)
  | address a isWords =>
    rw [text, host, Url.Host.text, List.cons_append, List.mem_cons, List.mem_append,
      List.mem_singleton] at hc
    rcases hc with rfl | hc | rfl
    · decide
    · rcases a.isPlain_text c hc with hc | rfl
      · exact ⟨(isAuthorityChar_of_hexValue? hc).1, (isAuthorityChar_of_hexValue? hc).2.1⟩
      · decide
    · decide

theorem isHostText : IsHostText h.text := by
  cases h with
  | name text isPlain =>
    exact .name isPlain.ne_nil fun _ => Url.isNameChar_of_isPlainText isPlain.isPlainText
  | address a isWords => exact .address a

theorem text_ne : h.text ≠ [] :=
  h.isHostText.ne_nil

/-! ## Hosts -/

/-- The host ends before the port. -/
theorem splitHost_text (digits : List Char) :
    Url.splitHost false (h.text ++ ':' :: digits) = (h.text, ':' :: digits) :=
  h.isHostText.splitHost_eq digits

theorem readHost_text (special : Bool) :
    Url.readHost special h.text = .ok (some h.host) := by
  cases h with
  | name text isPlain => exact isPlain.readHost_eq special
  | address a isWords =>
    have hbracketed := Url.Host.parseBracketed_text isWords
    unfold Url.readHost
    rw [if_neg (by simpa using text_ne _)]
    cases special with
    | true => exact congrArg (Except.map some) hbracketed
    | false => exact congrArg (Except.map some) hbracketed

/-- Digits after the host are seen to be written. -/
theorem writesPort_text {digits : List Char} (hne : digits ≠ [])
    (hdigits : ∀ c ∈ digits, c.isDigit = true) : writesPort (h.text ++ ':' :: digits) = true :=
  writesPort_of_host (h.readHost_text true) hne hdigits

theorem withoutBrackets_text : withoutBrackets h.text = h.bare := by
  cases h with
  | name text isPlain =>
    exact Url.withoutBrackets_of_isNameChar fun _ =>
      Url.isNameChar_of_isPlainText isPlain.isPlainText
  | address a isWords => exact Url.withoutBrackets_address a

end HostSpelling

/-! ## What stands before the authority -/

theorem dropSlashPairs_of_head {s : List Char} (h : ∀ c ∈ s.head?, c ≠ '/') :
    dropSlashPairs s = s := by
  refine dropSlashPairs_eq_self ?_
  rintro r rfl
  exact h '/' rfl rfl

namespace Opening

theorem isToken_scheme (o : Opening) : IsSchemeToken o.scheme := by
  cases o with
  | bare => exact ⟨by decide, by simp [scheme], by simp [scheme]⟩
  | slashes => exact ⟨by decide, by simp [scheme], by simp [scheme]⟩
  | schemed scheme isToken ne => exact isToken

theorem scheme_ne (o : Opening) : o.scheme ≠ "file".toList := by
  cases o with
  | bare => decide
  | slashes => decide
  | schemed scheme isToken ne => exact ne

theorem isBlank_text (o : Opening) : ∀ c ∈ o.text, isBlank c = false := by
  have hmark : ∀ c ∈ authorityMark, isBlank c = false := by simp [authorityMark, isBlank]
  intro c hc
  cases o with
  | bare => cases hc
  | slashes =>
    obtain rfl : c = '/' := by simpa [text] using hc
    decide
  | schemed scheme isToken ne =>
    rcases List.mem_append.mp hc with hc | hc
    · have := Url.toNat_of_isSchemeChar (isToken.isSchemeChar c hc)
      simp [isBlank]
      omega
    · exact hmark c hc

/-- A scheme that is missing is added, in the place of slashes. -/
theorem withScheme_text (o : Opening) {s : List Char} (hfirst : ∀ c ∈ s.head?, c ≠ '/')
    (hmark : o = bare ∨ o = slashes → ¬ authorityMark <:+: s) :
    withScheme (o.text ++ s) = o.scheme ++ (authorityMark ++ s) := by
  have hne : authorityMark ≠ [] := by decide
  cases o with
  | bare =>
    have hnone := (Text.cutAt?_eq_none_iff hne).mpr (hmark (.inl rfl))
    show (if (cutAt? authorityMark s).isSome then s else "http://".toList ++ dropSlashPairs s) = _
    rw [hnone, dropSlashPairs_of_head hfirst]
    rfl
  | slashes =>
    have hnone : cutAt? authorityMark ('/' :: '/' :: s) = none := by
      have hstart (t : List Char) : ¬ authorityMark <+: '/' :: t := fun h =>
        absurd (List.cons_prefix_cons.mp h).1 (by decide)
      rw [Text.cutAt?_eq_none_iff hne, List.infix_cons_iff, List.infix_cons_iff]
      simp only [hstart, hmark (.inr rfl), or_self, not_false_eq_true]
    show (if (cutAt? authorityMark ('/' :: '/' :: s)).isSome then '/' :: '/' :: s
      else "http://".toList ++ dropSlashPairs ('/' :: '/' :: s)) = _
    rw [hnone, dropSlashPairs, dropSlashPairs_of_head hfirst]
    rfl
  | schemed scheme isToken ne =>
    have hsome : (cutAt? authorityMark (scheme ++ authorityMark ++ s)).isSome = true := by
      rw [Option.isSome_iff_ne_none, Ne, Text.cutAt?_eq_none_iff hne, not_not]
      exact List.infix_append scheme authorityMark s
    show (if (cutAt? authorityMark (scheme ++ authorityMark ++ s)).isSome
      then scheme ++ authorityMark ++ s else _) = _
    rw [hsome, if_pos rfl, List.append_assoc]
    rfl

end Opening

/-! ## The text -/

namespace Written

variable (w : Written)

/-- The credentials, encoded. -/
def info : Option (List Char) :=
  w.login.map fun l => encodeAll l.1 ++ ':' :: encodeAll l.2

def digits : List Char :=
  Nat.toDigits 10 w.port.toNat

def hostPort : List Char :=
  w.host.text ++ ':' :: w.digits

def authority : List Char :=
  Url.withUserInfo w.info w.hostPort

def text : List Char :=
  w.before ++ (w.opening.text ++ (w.authority ++ (w.tail ++ w.after)))

theorem digits_ne : w.digits ≠ [] :=
  Nat.toDigits_ne_nil

theorem isDigit_digits {c : Char} (hc : c ∈ w.digits) : c.isDigit = true :=
  Nat.isDigit_of_mem_toDigits (by decide) (by decide) hc

theorem hostPort_chars : ∀ c ∈ w.hostPort, isAuthorityChar c = true ∧ c ≠ '@' := by
  intro c hc
  rw [hostPort, List.mem_append, List.mem_cons] at hc
  rcases hc with hc | rfl | hc
  · exact w.host.text_chars c hc
  · decide
  · have hdigit := w.isDigit_digits hc
    refine ⟨isAuthorityChar_of_isAlphanum ?_, ?_⟩
    · rw [Char.isAlphanum, hdigit, Bool.or_true]
    · rintro rfl
      exact absurd hdigit (by decide)

theorem at_notMem_hostPort : '@' ∉ w.hostPort := fun h =>
  (w.hostPort_chars _ h).2 rfl

theorem isInner_authority : ∀ c ∈ w.authority, IsInner c := by
  intro c hc
  refine isInner_of_isAuthorityChar ?_
  unfold authority info at hc
  cases hl : w.login with
  | none =>
    rw [hl] at hc
    exact (w.hostPort_chars c hc).1
  | some l =>
    have hmem : ((c ∈ encodeAll l.1 ∨ c = ':' ∨ c ∈ encodeAll l.2) ∨ c = '@' ∨ c ∈ w.hostPort) := by
      rw [hl] at hc
      simpa [Url.withUserInfo, or_assoc] using hc
    rcases hmem with (hc | rfl | hc) | rfl | hc
    · exact (isAuthorityChar_of_mem_encodeAll hc).1
    · decide
    · exact (isAuthorityChar_of_mem_encodeAll hc).1
    · decide
    · exact (w.hostPort_chars c hc).1

/-- The last character is a digit of the port. -/
theorem exists_last_digit : ∃ s c, w.authority = s ++ [c] ∧ c.isDigit = true := by
  obtain ⟨ds, d, hds⟩ : ∃ ds d, w.digits = ds ++ [d] :=
    ⟨_, _, (List.dropLast_concat_getLast w.digits_ne).symm⟩
  have hd : d.isDigit = true := w.isDigit_digits (by rw [hds]; simp)
  unfold authority hostPort
  rw [hds]
  cases w.info with
  | none => exact ⟨w.host.text ++ ':' :: ds, d, by simp [Url.withUserInfo], hd⟩
  | some info => exact ⟨info ++ '@' :: (w.host.text ++ ':' :: ds), d, by simp [Url.withUserInfo], hd⟩

theorem authority_ne : w.authority ≠ [] := by
  obtain ⟨s, c, hs, -⟩ := w.exists_last_digit
  rw [hs]
  simp

/-- No authority has a slash, and no mark goes on after its last digit. -/
theorem mark_notInfix (h : w.opening = .bare ∨ w.opening = .slashes) :
    ¬ authorityMark <:+: w.authority ++ trimRight w.tail := by
  obtain ⟨s, c, hs, hdigit⟩ := w.exists_last_digit
  have hc : c ∉ authorityMark := by
    have hmark : ∀ d ∈ authorityMark, d.isDigit = false := by simp [authorityMark]
    intro hc
    rw [hmark c hc] at hdigit
    cases hdigit
  rw [hs, List.append_assoc, List.singleton_append, Text.infix_append_cons_iff hc, not_or]
  constructor
  · intro hword
    have hslash : '/' ∈ w.authority := by
      rw [hs]
      exact List.mem_append_left _ (hword.subset (by decide))
    exact (w.isInner_authority _ hslash).ne_slash rfl
  · intro hword
    exact w.tail_unmarked h (hword.trans (Text.trimRight_prefix _).isInfix)

theorem tail_head : ∀ c ∈ (trimRight w.tail).head?, isDelimiter c = true := by
  intro c hc
  obtain ⟨b, hb⟩ := Text.trimRight_prefix w.tail
  refine w.tail_delimited c ?_
  rw [← hb, List.head?_append, Option.mem_def.mp hc]
  rfl

end Written

end ProxyRouting.ProxyVariable
