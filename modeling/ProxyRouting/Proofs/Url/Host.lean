import ProxyRouting.Proofs.Destination.Uri
import ProxyRouting.Proofs.Url.Ipv4
import ProxyRouting.Proofs.Url.Ipv6

/-!
# Hosts and their texts

The text of a host that is read is a name, without any mark of a URL, or an IPv6 address in brackets.
So it ends before a port, and there are no brackets around it once those of the address are dropped.
It is read as that host again: an address because it is written back, and a name that is not looked
up because it is encoded already.  Of domain names this has to be known.

    readHost special s = .ok (some host) → IsHostText host.text
    bracketed (withoutBrackets s) = s                                              (IsHostText s)
    readHost special host.text = .ok (some host)           (domain names that are their own forms)
-/

namespace ProxyRouting.Url

open Destination (bracketed withoutBrackets)

/-- What the name of a host may be written with. -/
def isNameChar (c : Char) : Bool :=
  0x20 < c.toNat && c.toNat < 0x7F && !"#/:<>?@[\\]^|".toList.contains c

/-- A name, or an address in brackets. -/
inductive IsHostText : List Char → Prop
  | name {s : List Char} (ne : s ≠ []) (chars : ∀ c ∈ s, isNameChar c = true) : IsHostText s
  | address (a : Ipv6) : IsHostText (Host.ipv6 a).text

theorem IsHostText.ne_nil {s : List Char} (h : IsHostText s) : s ≠ [] := by
  cases h with
  | name ne _ => exact ne
  | address a => exact List.cons_ne_nil _ _

/-! ## Characters of names -/

theorem toNat_lt_of_isNameChar {c : Char} (h : isNameChar c = true) : c.toNat < 0x80 := by
  unfold isNameChar at h
  simp only [Bool.and_eq_true, decide_eq_true_eq] at h
  omega

theorem isNameChar_of_isWritable {c : Char} (h : Idna.IsWritable c) : isNameChar c = true := by
  let P (c : Char) : Prop := Idna.isDenied c = false → isNameChar c = true
  have hall : P c := Text.forall_ascii (P := P) (by decide +kernel) h.toNat_lt
  exact hall h.not_denied

theorem isNameChar_of_isPlainText {s : List Char} (h : IsPlainText s) {c : Char} (hc : c ∈ s) :
    isNameChar c = true :=
  isNameChar_of_isWritable ⟨h.toNat_lt hc, (h.char_plain hc).2.1⟩

/-- What is neither forbidden nor a control may be in a name. -/
theorem isNameChar_of_kept {c : Char} (hforbidden : Host.isForbidden c = false)
    (hcontrol : Percent.isControl c = false) : isNameChar c = true := by
  let P (c : Char) : Prop := Host.isForbidden c = false → Percent.isControl c = false →
    isNameChar c = true
  have hlt : c.toNat < 0x80 := by
    unfold Percent.isControl at hcontrol
    simp only [Bool.or_eq_false_iff, decide_eq_false_iff_not] at hcontrol
    omega
  have hall : P c := Text.forall_ascii (P := P) (by decide +kernel) hlt
  exact hall hforbidden hcontrol

theorem isNameChar_of_mem_encode {s : List Char} (h : ∀ c ∈ s, Host.isForbidden c = false) :
    ∀ c ∈ Percent.encode Percent.isControl s, isNameChar c = true := by
  have hdigit : ∀ n < 16, isNameChar (Percent.hexDigit (UInt8.ofNat n)) = true := by decide +kernel
  intro c hc
  rcases Percent.mem_encode hc with ⟨hmem, hkept⟩ | rfl | ⟨n, hn, rfl⟩
  · exact isNameChar_of_kept (h c hmem) hkept
  · decide
  · exact hdigit n hn

/-- A character of a name is not forbidden, and no control. -/
theorem kept_of_isNameChar {c : Char} (h : isNameChar c = true) :
    Host.isForbidden c = false ∧ Percent.isControl c = false := by
  let P (c : Char) : Prop := isNameChar c = true →
    Host.isForbidden c = false ∧ Percent.isControl c = false
  have hall : P c := Text.forall_ascii (P := P) (by decide +kernel) (toNat_lt_of_isNameChar h)
  exact hall h

/-! ## What is read -/

namespace Host

/-- A domain name that is read from some text is read from itself. -/
def IsOwnForm (name : List Char) : Prop :=
  ∀ s, parse s = .ok (.name name) → parse name = .ok (.name name)

/-- An address in brackets, of groups that have sixteen bits. -/
theorem parseBracketed_cases {s : List Char} {host : Host} (h : parseBracketed s = .ok host) :
    ∃ a : Ipv6, host = .ipv6 a ∧ ∀ n ∈ a.groups.toList, n < 65536 := by
  unfold parseBracketed at h
  split at h
  · cases h
  · split at h
    · next a ha =>
      cases h
      exact ⟨a, rfl, Ipv6.parse?_lt ha⟩
    · cases h

theorem parseDomain_cases {s : List Char} {host : Host} (h : parseDomain s = .ok host) :
    (∃ a : Ipv4, host = .ipv4 a) ∨
      ∃ name, host = .name name ∧ name ≠ [] ∧ ∀ c ∈ name, isNameChar c = true := by
  unfold parseDomain at h
  split at h
  · cases h
  · cases h
  · next name hne hname =>
    split at h
    · split at h
      · cases h
        exact .inl ⟨_, rfl⟩
      · cases h
    · cases h
      obtain ⟨t, -, hascii⟩ := Option.bind_eq_some_iff.mp hname
      exact .inr ⟨_, rfl, fun hnil => hne hnil, fun c hc =>
        isNameChar_of_isWritable (Idna.isWritable_toAscii hascii c hc)⟩

theorem parse_cases {s : List Char} {host : Host} (h : parse s = .ok host) :
    (∃ a : Ipv6, host = .ipv6 a ∧ ∀ n ∈ a.groups.toList, n < 65536) ∨ (∃ a : Ipv4, host = .ipv4 a) ∨
      ∃ name, host = .name name ∧ name ≠ [] ∧ ∀ c ∈ name, isNameChar c = true := by
  unfold parse at h
  split at h
  · exact .inl (parseBracketed_cases h)
  · exact .inr (parseDomain_cases h)

theorem parseOpaque_cases {s : List Char} {host : Host} (hne : s ≠ [])
    (h : parseOpaque s = .ok host) :
    (∃ a : Ipv6, host = .ipv6 a ∧ ∀ n ∈ a.groups.toList, n < 65536) ∨
      ∃ name, host = .name name ∧ name ≠ [] ∧ ∀ c ∈ name, isNameChar c = true := by
  unfold parseOpaque at h
  split at h
  · exact .inl (parseBracketed_cases h)
  · split at h
    · cases h
    · next hforbidden =>
      cases h
      rw [Bool.not_eq_true, List.any_eq_false] at hforbidden
      exact .inr ⟨_, rfl, mt Percent.encode_eq_nil_iff.mp hne,
        isNameChar_of_mem_encode fun c hc => Bool.not_eq_true _ ▸ hforbidden c hc⟩

/-- No name is read from a text with a colon. -/
theorem colon_notMem_of_parse {s : List Char} {host : Host} (hopen : s.head? ≠ some '[')
    (h : parse s = .ok host) : ':' ∉ s := by
  intro hmem
  have hnone : (Percent.decode? s).bind Idna.toAscii = none := by
    cases hdecode : Percent.decode? s with
    | none => rfl
    | some t =>
      have hcolon : ':' ∈ t := Percent.mem_of_decode? (by decide) (by decide) (by decide) hdecode hmem
      exact Idna.toAscii_eq_none (by decide) (by decide) hcolon
  unfold parse at h
  split at h
  · exact hopen rfl
  · rw [parseDomain, hnone] at h
    cases h

theorem colon_notMem_of_parseOpaque {s : List Char} {host : Host} (hopen : s.head? ≠ some '[')
    (h : parseOpaque s = .ok host) : ':' ∉ s := by
  unfold parseOpaque at h
  split at h
  · exact absurd rfl hopen
  · split at h
    · cases h
    · next hforbidden =>
      exact fun hmem => hforbidden (List.any_eq_true.mpr ⟨':', hmem, by decide⟩)

/-! ## Texts that are read again -/

theorem parseBracketed_text {a : Ipv6} (h : ∀ n ∈ a.groups.toList, n < 65536) :
    parseBracketed (a.text ++ [']']) = .ok (.ipv6 a) := by
  unfold parseBracketed
  rw [List.getLast?_concat, List.dropLast_concat, Ipv6.parse?_text h]
  rfl

/-- A name that is not looked up is encoded once. -/
theorem parseOpaque_of_isNameChar {name : List Char} (h : ∀ c ∈ name, isNameChar c = true) :
    parseOpaque name = .ok (.name name) := by
  have hforbidden : name.any isForbidden = false :=
    List.any_eq_false.mpr fun c hc => by simp [(kept_of_isNameChar (h c hc)).1]
  have hsame : Percent.encode Percent.isControl name = name :=
    Percent.encode_eq_self fun c hc => (kept_of_isNameChar (h c hc)).2
  unfold parseOpaque
  split
  · exact absurd (h '[' List.mem_cons_self) (by decide)
  · rw [hforbidden, if_neg (by decide), hsame]

theorem parse_text {s : List Char} {host : Host} (h : parse s = .ok host)
    (hname : ∀ name, host = .name name → IsOwnForm name) : parse host.text = .ok host := by
  obtain ⟨a, rfl, ha⟩ | ⟨a, rfl⟩ | ⟨name, rfl, -⟩ := parse_cases h
  · exact parseBracketed_text ha
  · exact a.parse_text
  · exact hname name rfl s h

theorem parseOpaque_text {s : List Char} {host : Host} (hne : s ≠ []) (h : parseOpaque s = .ok host) :
    parseOpaque host.text = .ok host := by
  obtain ⟨a, rfl, ha⟩ | ⟨name, rfl, -, hchars⟩ := parseOpaque_cases hne h
  · exact parseBracketed_text ha
  · exact parseOpaque_of_isNameChar hchars

/-- No name has a colon. -/
theorem isOwnForm_of_colon {name : List Char} (h : ':' ∈ name) : IsOwnForm name := by
  intro s hs
  obtain ⟨a, ha, -⟩ | ⟨a, ha⟩ | ⟨_, ⟨⟩, -, hchars⟩ := parse_cases hs
  · cases ha
  · cases ha
  · exact absurd (hchars ':' h) (by decide)

end Host

section
variable {special : Bool} {s : List Char} {host : Host}
  (h : readHost special s = .ok (some host))

include h

theorem ne_nil_of_readHost : s ≠ [] := by
  rintro rfl
  cases special <;> cases h

theorem isHostText_of_readHost : IsHostText host.text := by
  have hne := ne_nil_of_readHost h
  obtain ⟨a, ha, hparse⟩ := readHost_ok hne h
  obtain rfl := Option.some.inj ha
  split at hparse
  · obtain ⟨a, rfl, -⟩ | ⟨a, rfl⟩ | ⟨name, rfl, hname, hchars⟩ := Host.parse_cases hparse
    · exact .address a
    · exact .name a.text_ne_nil fun c => isNameChar_of_isPlainText a.isPlainText_text
    · exact .name hname hchars
  · obtain ⟨a, rfl, -⟩ | ⟨name, rfl, hname, hchars⟩ := Host.parseOpaque_cases hne hparse
    · exact .address a
    · exact .name hname hchars

/-- **A host is read from its text**, if a domain name is. -/
theorem readHost_text (hname : special = true → ∀ name, host = .name name → Host.IsOwnForm name) :
    readHost special host.text = .ok (some host) := by
  have hne := ne_nil_of_readHost h
  obtain ⟨a, ha, hparse⟩ := readHost_ok hne h
  obtain rfl := Option.some.inj ha
  unfold readHost
  rw [if_neg (by simpa using (isHostText_of_readHost h).ne_nil)]
  cases special with
  | true => exact congrArg (Except.map some) (Host.parse_text hparse (hname rfl))
  | false => exact congrArg (Except.map some) (Host.parseOpaque_text hne hparse)

end

/-- A host that is read has colons in brackets only. -/
theorem colon_notMem_of_readHost {special : Bool} {s : List Char} {host : Option Host}
    (hopen : s.head? ≠ some '[') (h : readHost special s = .ok host) : ':' ∉ s := by
  by_cases hne : s = []
  · rw [hne]
    exact List.not_mem_nil
  · obtain ⟨a, -, ha⟩ := readHost_ok hne h
    cases special with
    | true => exact Host.colon_notMem_of_parse hopen ha
    | false => exact Host.colon_notMem_of_parseOpaque hopen ha

/-! ## Hosts in an authority -/

theorem withoutBrackets_of_isNameChar {s : List Char} (h : ∀ c ∈ s, isNameChar c = true) :
    withoutBrackets s = s := by
  cases s with
  | nil => rfl
  | cons c t =>
    have hc : c ≠ '[' := by
      rintro rfl
      exact absurd (h '[' List.mem_cons_self) (by decide)
    simp [withoutBrackets, Text.between?, hc]

theorem withoutBrackets_address (a : Ipv6) : withoutBrackets (Host.ipv6 a).text = a.text := by
  show (Text.between? '[' ']' ('[' :: a.text ++ [']'])).getD _ = a.text
  simp [Text.between?]

namespace IsHostText

variable {s : List Char} (h : IsHostText s)

include h

theorem withoutBrackets_cases : withoutBrackets s = s ∧ (∀ c ∈ s, isNameChar c = true) ∨
    ∃ a : Ipv6, withoutBrackets s = a.text ∧ s = (Host.ipv6 a).text := by
  cases h with
  | name ne chars => exact .inl ⟨withoutBrackets_of_isNameChar chars, chars⟩
  | address a => exact .inr ⟨a, withoutBrackets_address a, rfl⟩

/-- Whether there were brackets can be told from the colons. -/
theorem bracketed_withoutBrackets : bracketed (withoutBrackets s) = s := by
  obtain ⟨hbare, hchars⟩ | ⟨a, hbare, rfl⟩ := h.withoutBrackets_cases
  · rw [hbare, bracketed, if_neg fun hmem => absurd (hchars ':' hmem) (by decide)]
  · rw [hbare, bracketed, if_pos a.colon_mem_text]
    rfl

/-- Without its brackets a host is not empty, and has no bracket in front of it. -/
theorem withoutBrackets_ne :
    withoutBrackets s ≠ [] ∧ (withoutBrackets s).head? ≠ some '[' := by
  obtain ⟨hbare, hchars⟩ | ⟨a, hbare, -⟩ := h.withoutBrackets_cases
  · rw [hbare]
    exact ⟨h.ne_nil, fun hhead => absurd (hchars '[' (List.mem_of_mem_head? hhead)) (by decide)⟩
  · rw [hbare]
    refine ⟨List.ne_nil_of_mem a.colon_mem_text, fun hhead => ?_⟩
    have := a.isPlain_text '[' (List.mem_of_mem_head? hhead)
    revert this
    decide

theorem isNameChar_or {c : Char} (hc : c ∈ s) :
    isNameChar c = true ∨ c = '[' ∨ c = ']' ∨ c = ':' := by
  cases h with
  | name _ chars => exact .inl (chars c hc)
  | address a =>
    rw [Host.text, List.cons_append, List.mem_cons, List.mem_append, List.mem_singleton] at hc
    rcases hc with rfl | hc | rfl
    · exact .inr (.inl rfl)
    · rcases a.isPlain_text c hc with hdigit | rfl
      · obtain ⟨n, hn⟩ := Option.isSome_iff_exists.mp hdigit
        let P (c : Char) : Prop := (Text.hexValue? c).isSome = true → isNameChar c = true
        have hall : P c := Text.forall_ascii (P := P) (by decide +kernel)
          (Percent.toNat_lt_of_hexValue? hn)
        exact .inl (hall hdigit)
      · exact .inr (.inr (.inr rfl))
    · exact .inr (.inr (.inl rfl))

/-- A host ends before its port. -/
theorem splitHost_eq (digits : List Char) :
    splitHost false (s ++ ':' :: digits) = (s, ':' :: digits) := by
  cases h with
  | name _ chars =>
    refine splitHost_append (fun c hc => ?_) (by simp)
    have hchar := chars c hc
    constructor
    · rintro rfl
      exact absurd hchar (by decide)
    · rintro rfl
      exact absurd hchar (by decide)
  | address a =>
    have hclose : ']' ∉ a.text := by
      intro hmem
      have := a.isPlain_text ']' hmem
      revert this
      decide
    have hsplit : splitHost false ('[' :: a.text ++ ']' :: (':' :: digits)) =
        ('[' :: a.text ++ [']'], ':' :: digits) :=
      splitHost_brackets hclose (by simp)
    have htext : (Host.ipv6 a).text ++ ':' :: digits = '[' :: a.text ++ ']' :: (':' :: digits) := by
      simp [Host.text]
    rw [htext, hsplit]
    rfl

end IsHostText

end ProxyRouting.Url
