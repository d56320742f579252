import ProxyRouting.Proofs.ProxyVariable.Login
import ProxyRouting.Proofs.Url.Name
import ProxyRouting.Proofs.Url.Number

/-!
# Ports that are the default of their scheme

A proxy variable has to write its port, even where that is the default of the scheme.  The reader of
URLs does not tell a default that is written from one that is not, so the digits are looked for once
more, in the authority as it is written.  Where that is not the authority that is read, a default that
is written may be refused, and one that is not may be taken for granted.

    parse (pre ++ d ++ post) = the variable with port d ↔ d ≠ 0 ∧ (d is the default → FindsPort text)
    no digits read → the port is the default ∧ FindsPort text ∧ ¬ ReadAsWritten text
    ReadAsWritten layout.text ↔ layout.slashes = [] ∧ layout.tail does not begin with a backslash
-/

namespace ProxyRouting.ProxyVariable

open Text (trim)
open Destination (authorityMark upToDelimiter isDelimiter withoutUserInfo
  upToDelimiter_append_of_delimiter)
open Url (IsNumber PortSlot Layout portDigits portText splitHost)

/-! ## Ports and where they are looked for -/

/-- Digits of a port are seen in the authority as it is written. -/
def FindsPort (text : List Char) : Prop :=
  writesPort (splitUserInfo (authority text)).2 = true

instance (text : List Char) : Decidable (FindsPort text) :=
  inferInstanceAs (Decidable (_ = true))

/-- The authority that is read is the one that is written. -/
def ReadAsWritten (text : List Char) : Prop :=
  Url.authority? text = some (authority text)

/-- A variable with another port, and the credentials of an authority. -/
def withPort (v : ProxyVariable) (port : UInt16) (authority : List Char) : ProxyVariable :=
  { v with
    port := port
    username := (login? authority).map fun r => decoded r.1
    password := (login? authority).map fun r => decoded r.2 }

/-- The text that a value is read as. -/
def readText (value : String) : List Char :=
  withScheme (trim value.toList)

/-- A value with a number in it. -/
def numbered (pre post : String) (n : UInt16) : String :=
  pre ++ toString n.toNat ++ post

/-! ## A number in a value -/

theorem trim_number (before after : List Char) {x : List Char} (hx : IsNumber x) :
    trim (before ++ x ++ after) = Text.trimLeft before ++ x ++ Text.trimRight after := by
  unfold trim Text.trimLeft Text.trimRight
  rw [hx.dropWhile_eq (by decide), hx.reverse_dropWhile_eq (by decide)]

theorem dropSlashPairs_number (before after : List Char) {x : List Char} (hx : IsNumber x) :
    dropSlashPairs (before ++ x ++ after) = dropSlashPairs before ++ x ++ after := by
  induction before using dropSlashPairs.induct with
  | case1 rest ih => exact ih
  | case2 s hs =>
    rw [dropSlashPairs_eq_self hs, dropSlashPairs_eq_self (hx.ne_slashes hs after)]

/-- The text that is read around a number is the same for all numbers. -/
theorem withScheme_number (before after : List Char) :
    ∃ before' after', ∀ x, IsNumber x →
      withScheme (trim (before ++ x ++ after)) = before' ++ x ++ after' := by
  have hne : authorityMark ≠ [] := by decide
  have hmark {x : List Char} (hx : IsNumber x) (s t : List Char) :
      (Text.cutAt? authorityMark (s ++ x ++ t)).isSome = true ↔
        authorityMark <:+: s ∨ authorityMark <:+: t := by
    have hdigits : ∀ c ∈ x, c ∉ authorityMark := hx.forall_mem (by decide)
    rw [← Text.infix_append_append_iff hne hx.ne_nil hdigits, Option.isSome_iff_ne_none, Ne,
      Text.cutAt?_eq_none_iff hne, not_not]
  by_cases h : authorityMark <:+: Text.trimLeft before ∨ authorityMark <:+: Text.trimRight after
  · refine ⟨Text.trimLeft before, Text.trimRight after, fun x hx => ?_⟩
    rw [trim_number before after hx, withScheme, if_pos ((hmark hx _ _).mpr h)]
  · refine ⟨"http://".toList ++ dropSlashPairs (Text.trimLeft before), Text.trimRight after,
      fun x hx => ?_⟩
    rw [trim_number before after hx, withScheme, if_neg (mt (hmark hx _ _).mp h),
      dropSlashPairs_number _ _ hx]
    simp only [List.append_assoc]

theorem toList_numbered (pre post : String) (n : UInt16) :
    (numbered pre post n).toList = pre.toList ++ Nat.toDigits 10 n.toNat ++ post.toList := by
  simp [numbered]

theorem readText_numbered (pre post : String) :
    ∃ before after, ∀ n, readText (numbered pre post n) =
      before ++ Nat.toDigits 10 n.toNat ++ after := by
  obtain ⟨before, after, htext⟩ := withScheme_number pre.toList post.toList
  refine ⟨before, after, fun n => ?_⟩
  rw [readText, toList_numbered, htext _ (Url.isNumber_toDigits _)]

theorem trim_numbered_ne (pre post : String) (n : UInt16) :
    trim (numbered pre post n).toList ≠ [] := by
  have hdigits := Url.isNumber_toDigits n.toNat
  rw [toList_numbered, trim_number _ _ hdigits]
  exact List.append_ne_nil_of_left_ne_nil (List.append_ne_nil_of_right_ne_nil _ hdigits.ne_nil) _

/-! ## The port of a value -/

/-- What an accepted value says. -/
theorem exists_url_of_parse {protocol value : String} {noProxy : Option String} {v : ProxyVariable}
    (h : (parse protocol (some value) noProxy).1 = some v) :
    ∃ url host, Url.parse (readText value) = .ok url ∧ url.hostText? = some host ∧ host ≠ [] ∧
      port? url (splitUserInfo (authority (readText value))).2 = some v.port ∧
      v = ⟨protocol, String.ofList url.scheme, String.ofList (Destination.withoutBrackets host),
        v.port, (noProxy.map splitList).getD [],
        (login? (authority (readText value))).map fun r => decoded r.1,
        (login? (authority (readText value))).map fun r => decoded r.2⟩ := by
  have hvalue := parse_eq_some_iff.mp h
  obtain ⟨url, host, hurl, hhost, hne⟩ := exists_of_ofValue hvalue
  rw [ofValue_of_url hurl hhost hne] at hvalue
  split at hvalue
  · next port hport =>
    cases hvalue
    exact ⟨url, host, hurl, hhost, hne, hport, rfl⟩
  · cases hvalue

/-- What a value with a number says, if the number is read as the port. -/
theorem parse_numbered {pre post : String} {n : UInt16} {url : Url} {host : List Char}
    (hurl : Url.parse (readText (numbered pre post n)) = .ok url)
    (hhost : url.hostText? = some host) (hne : host ≠ [])
    (hport : url.port = if Url.defaultPort? url.scheme = some n then none else some n)
    (protocol : String) (noProxy : Option String) :
    parse protocol (some (numbered pre post n)) noProxy =
      if n ≠ 0 ∧ (Url.defaultPort? url.scheme = some n →
          FindsPort (readText (numbered pre post n))) then
        (some ⟨protocol, String.ofList url.scheme,
          String.ofList (Destination.withoutBrackets host), n, (noProxy.map splitList).getD [],
          (login? (authority (readText (numbered pre post n)))).map fun r => decoded r.1,
          (login? (authority (readText (numbered pre post n)))).map fun r => decoded r.2⟩, [])
      else (none, [.variableRefused protocol
        (String.ofList (redacted (trim (numbered pre post n).toList))) .portMissing]) := by
  have hread := port?_eq hport
    (splitUserInfo (authority (withScheme (trim (numbered pre post n).toList)))).2
  have hvalue := ofValue_of_url hurl hhost hne protocol noProxy
  by_cases hfinds : n ≠ 0 ∧ (Url.defaultPort? url.scheme = some n →
      FindsPort (readText (numbered pre post n)))
  · rw [if_pos hfinds]
    rw [hread.trans (if_pos hfinds)] at hvalue
    exact parse_of_ok hvalue
  · rw [if_neg hfinds]
    rw [hread.trans (if_neg hfinds)] at hvalue
    exact parse_of_error (trim_numbered_ne pre post n) hvalue

/-! ## Ports that are not read -/

theorem defaultPort?_ne_zero {scheme : List Char} {port : UInt16}
    (h : Url.defaultPort? scheme = some port) : port ≠ 0 := by
  unfold Url.defaultPort? at h
  split at h
  · cases h
    decide
  · split at h
    · cases h
      decide
    · split at h
      · cases h
        decide
      · cases h

theorem isSpecial_of_defaultPort? {scheme : List Char} {port : UInt16}
    (h : Url.defaultPort? scheme = some port) : Url.isSpecial scheme = true := by
  rw [Url.isSpecial, h]
  rfl

/-- The authority that the URL of an accepted value is read from. -/
theorem exists_authority_of_parse {protocol value : String} {noProxy : Option String}
    {v : ProxyVariable} (h : (parse protocol (some value) noProxy).1 = some v) :
    ∃ url read isLast, Url.parse (readText value) = .ok url ∧ v.scheme.toList = url.scheme ∧
      port? url (splitUserInfo (authority (readText value))).2 = some v.port ∧
      Url.authority? (readText value) = some read ∧
      Url.readAuthority url.scheme isLast read = .ok url := by
  obtain ⟨url, host, hurl, hhost, -, hport, hv⟩ := exists_url_of_parse h
  have hsome : url.host ≠ none := by
    intro hnone
    rw [Url.hostText?, hnone] at hhost
    cases hhost
  have hfile : url.scheme ≠ "file".toList := by
    intro hfile
    have heffective := effectivePort?_of_port? hport
    rw [Url.effectivePort?_of_file hurl hfile] at heffective
    cases heffective
  obtain ⟨read, isLast, hauthority, hread⟩ := Url.parse_authority hurl hsome hfile
  refine ⟨url, read, isLast, hurl, ?_, hport, hauthority, hread⟩
  rw [hv]
  exact String.toList_ofList

/-- Digits that are read write the port. -/
theorem number?_portDigits {protocol value : String} {noProxy : Option String} {v : ProxyVariable}
    (h : (parse protocol (some value) noProxy).1 = some v)
    (hne : portDigits (readText value) ≠ []) :
    Text.number? 10 (portDigits (readText value)) = some v.port.toNat := by
  obtain ⟨url, read, isLast, -, -, hport, hauthority, hread⟩ := exists_authority_of_parse h
  obtain ⟨n, hlt, hnumber, heffective⟩ := Url.readAuthority_port hread
  rw [Url.portDigits_eq hauthority] at hne ⊢
  rw [if_neg hne, effectivePort?_of_port? hport] at heffective
  rw [hnumber, Option.some.inj heffective, UInt16.toNat_ofNat_of_lt' hlt]

/-- Without them the port is the default of its scheme, and digits are seen for it elsewhere: the
authority is not read as it is written. -/
theorem findsPort_of_portDigits {protocol value : String} {noProxy : Option String}
    {v : ProxyVariable} (h : (parse protocol (some value) noProxy).1 = some v)
    (hempty : portDigits (readText value) = []) :
    Url.defaultPort? v.scheme.toList = some v.port ∧ FindsPort (readText value) ∧
      ¬ ReadAsWritten (readText value) := by
  obtain ⟨url, read, isLast, hurl, hscheme, hport, hauthority, hread⟩ := exists_authority_of_parse h
  obtain ⟨n, -, -, hnone⟩ := Url.readAuthority_port hread
  rw [Url.portDigits_eq hauthority] at hempty
  rw [if_pos hempty] at hnone
  have hdefault : Url.defaultPort? url.scheme = some v.port := by
    have heffective := effectivePort?_of_port? hport
    rw [Url.effectivePort?, hnone] at heffective
    exact heffective
  have hfinds : writesPort (splitUserInfo (authority (readText value))).2 = true := by
    by_contra hnot
    rw [port?, hnone, if_neg hnot] at hport
    cases hport
  rw [hscheme]
  refine ⟨hdefault, hfinds, fun hwritten => ?_⟩
  obtain rfl : read = authority (readText value) :=
    Option.some.inj (hauthority.symm.trans hwritten)
  have hbackslash := Url.backslash_notMem_of_authority? hurl (isSpecial_of_defaultPort? hdefault)
    hauthority
  obtain ⟨-, -, hhost, -⟩ := Url.readAuthority_parts hread
  rw [splitUserInfo_snd] at hfinds
  refine splitHost_of_writesPort hhost hfinds ?_
  rw [← Url.portText_eq_drop hbackslash, hempty]

/-- Digits that are seen elsewhere make the default a port. -/
theorem exists_parse_of_findsPort {value : String} {url : Url} {port : UInt16}
    (hurl : Url.parse (readText value) = .ok url) (hempty : portDigits (readText value) = [])
    (hdefault : Url.defaultPort? url.scheme = some port) (hfinds : FindsPort (readText value))
    (protocol : String) (noProxy : Option String) :
    ∃ v, parse protocol (some value) noProxy = (some v, []) ∧ v.port = port := by
  have hspecial := isSpecial_of_defaultPort? hdefault
  obtain ⟨host, hhost, hne⟩ := Url.exists_hostText?_of_special hurl hspecial
  have hport : url.port = none := Url.port_eq_none hurl hspecial hempty
  have hread : port? url (splitUserInfo (authority (withScheme (trim value.toList)))).2 =
      some port :=
    (port?_eq (hport.trans (if_pos hdefault).symm) _).trans
      (if_pos ⟨defaultPort?_ne_zero hdefault, fun _ => hfinds⟩)
  have hvalue := ofValue_of_url hurl hhost hne protocol noProxy
  rw [hread] at hvalue
  exact ⟨_, parse_of_ok hvalue, rfl⟩

/-! ## Two ports -/

section
variable {slot : PortSlot} {x : List Char} (hx : IsNumber x)

include hx

theorem splitUserInfo_slot : splitUserInfo (slot.authority x) = (slot.info, slot.hostPort x) :=
  splitUserInfo_withUserInfo (PortSlot.at_notMem_hostPort hx) slot.info

theorem login?_slot : login? (slot.authority x) = slot.info.map parts := by
  rw [login?, splitUserInfo_slot hx]

/-- A number that stands alone in its place is seen. -/
theorem writesPort_slot (hexact : slot.IsExact) {special : Bool} {host : Option Url.Host}
    (hhost : Url.readHost special slot.hostText = .ok host) (h : '\\' ∉ slot.authority x) :
    writesPort (slot.hostPort x) = true := by
  have hafter : slot.after = [] := by
    have hplain : ∀ c ∈ slot.after, (c != '\\') = true := by
      intro c hc
      rw [bne_iff_ne]
      rintro rfl
      refine h ?_
      unfold PortSlot.authority PortSlot.hostPort Url.withUserInfo
      cases slot.info with
      | none => simp [hc]
      | some info => simp [hc]
    rw [← List.takeWhile_eq_self_iff.mpr hplain]
    exact hexact.after_ended
  rw [PortSlot.hostPort, hafter, List.append_nil]
  refine writesPort_of_host hhost (List.append_ne_nil_of_right_ne_nil _ hx.ne_nil) fun c hc => ?_
  rcases List.mem_append.mp hc with hc | hc
  · exact Text.isDigit_of_number? hexact.before_zeros c hc
  · exact hx.digits c hc

end

section
variable {protocol pre post : String} {noProxy : Option String} {a b : UInt16}
  {v v' : ProxyVariable} (hne : a ≠ b)
  (ha : (parse protocol (some (numbered pre post a)) noProxy).1 = some v) (hporta : v.port = a)
  (hb : (parse protocol (some (numbered pre post b)) noProxy).1 = some v') (hportb : v'.port = b)

include hne ha hporta hb hportb

/-- Where two numbers are read as ports, all others are read in the same place. -/
theorem exists_slot : ∃ slot : PortSlot, slot.IsExact ∧ slot.scheme = v.scheme.toList ∧
    (∃ host, Url.readHost (Url.isSpecial slot.scheme) slot.hostText = .ok host) ∧
    ∀ n : UInt16,
      Url.authority? (readText (numbered pre post n)) =
        some (slot.authority (Nat.toDigits 10 n.toNat)) ∧
      (Url.isSpecial slot.scheme = true → '\\' ∉ slot.authority (Nat.toDigits 10 n.toNat)) ∧
      parse protocol (some (numbered pre post n)) noProxy =
        if n ≠ 0 ∧ (Url.defaultPort? v.scheme.toList = some n →
            FindsPort (readText (numbered pre post n))) then
          (some (withPort v n (authority (readText (numbered pre post n)))), [])
        else (none, [.variableRefused protocol
          (String.ofList (redacted (trim (numbered pre post n).toList))) .portMissing]) := by
  obtain ⟨url, host, hurl, hhost, hnonempty, hport, hv⟩ := exists_url_of_parse ha
  obtain ⟨url', -, hurl', -, -, hport', -⟩ := exists_url_of_parse hb
  obtain ⟨before, after, htext⟩ := readText_numbered pre post
  have hzero : a ≠ 0 := by
    have := (Option.filter_eq_some_iff.mp hport).2
    rw [hporta] at this
    simpa using this
  have heffective := effectivePort?_of_port? hport
  have heffective' := effectivePort?_of_port? hport'
  rw [hporta] at heffective
  rw [hportb] at heffective'
  rw [htext] at hurl hurl'
  have hscheme : v.scheme.toList = url.scheme := by
    rw [hv]
    exact String.toList_ofList
  obtain ⟨slot, hexact, hslot, ⟨h, hreadHost⟩, hall⟩ :=
    Url.parse_of_two_ports hne hzero hurl heffective hurl' heffective'
  refine ⟨slot, hexact, hslot.trans hscheme.symm, ⟨_, hreadHost⟩, fun n => ?_⟩
  obtain ⟨hauthority, hparse⟩ := hall n
  rw [← htext] at hauthority hparse
  refine ⟨hauthority, fun hspecial => ?_, ?_⟩
  · rw [hslot] at hspecial
    exact Url.backslash_notMem_of_authority? hparse hspecial hauthority
  · rw [parse_numbered hparse hhost hnonempty rfl protocol noProxy, hscheme, withPort, hv]

/-- Where the authorities are read as they are written, the port is all that changes. -/
theorem parse_eq_of_readAsWritten (hreada : ReadAsWritten (readText (numbered pre post a)))
    {n : UInt16} (hzero : n ≠ 0) (hread : ReadAsWritten (readText (numbered pre post n))) :
    parse protocol (some (numbered pre post n)) noProxy = (some { v with port := n }, []) := by
  obtain ⟨slot, hexact, hscheme, ⟨host, hhost⟩, hall⟩ := exists_slot hne ha hporta hb hportb
  obtain ⟨hauthority, hbackslash, hparse⟩ := hall n
  have hdigits (n : UInt16) := Url.isNumber_toDigits n.toNat
  have hwritten {n : UInt16} (h : ReadAsWritten (readText (numbered pre post n))) :
      authority (readText (numbered pre post n)) = slot.authority (Nat.toDigits 10 n.toNat) :=
    Option.some.inj (h.symm.trans (hall n).1)
  have hfinds (hdefault : Url.defaultPort? v.scheme.toList = some n) :
      FindsPort (readText (numbered pre post n)) := by
    have hspecial : Url.isSpecial slot.scheme = true := by
      rw [hscheme, Url.isSpecial, hdefault]
      rfl
    rw [FindsPort, hwritten hread, splitUserInfo_slot (hdigits n)]
    exact writesPort_slot (hdigits n) hexact hhost (hbackslash hspecial)
  have hlogin :
      withPort v n (authority (readText (numbered pre post n))) = { v with port := n } := by
    obtain ⟨url, host, -, -, -, -, hv⟩ := exists_url_of_parse ha
    have huser : v.username = (slot.info.map parts).map fun r => decoded r.1 := by
      rw [hv, hwritten hreada, login?_slot (hdigits a)]
    have hpassword : v.password = (slot.info.map parts).map fun r => decoded r.2 := by
      rw [hv, hwritten hreada, login?_slot (hdigits a)]
    rw [withPort, hwritten hread, login?_slot (hdigits n), ← huser, ← hpassword]
  rw [hparse, if_pos ⟨hzero, hfinds⟩, hlogin]

end

/-! ## Where the two authorities are the same -/

section
variable (l : Layout)

theorem upToDelimiter_tail_iff : upToDelimiter l.tail = [] ↔ l.tail.head? ≠ some '\\' := by
  rcases upToDelimiter_tail l with hnil | ⟨t, ht⟩
  · refine iff_of_true hnil fun hhead => ?_
    obtain ⟨t, ht⟩ := List.head?_eq_some_iff.mp hhead
    rw [ht, upToDelimiter, List.takeWhile_cons_of_pos (by decide)] at hnil
    cases hnil
  · obtain ⟨rest, hrest⟩ : '\\' :: t <+: l.tail := ht ▸ List.takeWhile_prefix _
    rw [ht, ← hrest]
    simp

/-- The authority is read as it is written if no slash too many stands before it, and no backslash
after it. -/
theorem readAsWritten_text_iff :
    ReadAsWritten l.text ↔ l.slashes = [] ∧ l.tail.head? ≠ some '\\' := by
  unfold ReadAsWritten
  rw [l.authority?_text, authority_text l, Option.some.injEq, ← upToDelimiter_tail_iff]
  by_cases hplain : ∀ c ∈ l.slashes, isDelimiter c = false
  · rw [upToDelimiter_text l hplain]
    constructor
    · intro h
      have hlength := congrArg List.length h
      simp only [List.length_append] at hlength
      exact ⟨List.length_eq_zero_iff.mp (by omega), List.length_eq_zero_iff.mp (by omega)⟩
    · rintro ⟨hslashes, htail⟩
      rw [hslashes, htail, List.nil_append, List.append_nil]
  · have hne : l.slashes ≠ [] := fun hnil => hplain (by simp [hnil])
    have hspecial : Url.isSpecial l.lowerScheme = true := by
      by_contra h
      exact hne (l.slashes_special (Bool.not_eq_true _ ▸ h))
    refine iff_of_false (fun h => ?_) fun h => hne h.1
    rw [(upToDelimiter_append_of_delimiter hplain _).1] at h
    obtain ⟨c, t, hct⟩ := List.exists_cons_of_ne_nil l.authority_ne
    have hc : c ∈ l.authority := by
      rw [hct]
      exact List.mem_cons_self
    have hend := (l.authority_inner c hc).1
    rw [show Url.isSpecial (l.scheme.map Char.toLower) = true from hspecial] at hend
    have hslash : Url.isSlash c = true := by
      rw [h] at hc
      exact l.slashes_slash c ((List.takeWhile_sublist _).subset hc)
    rw [Url.isSlash_of_not_isAuthorityEnd hend] at hslash
    cases hslash

end

/-! ## Top theorem -/

/-- **Which ports are honoured.**  Where two numbers are accepted as ports, any other but zero is, and
only the credentials are looked for anew; if it is the default of the scheme, just where digits are
seen for it.  If the authorities are read as they are written nothing else changes.  A port that is
accepted is the one that is read; where none is read it is the default of the scheme, just where
digits are seen elsewhere, and then the authority is not read as it is written.  For a text put
together from its parts that means surplus slashes, or a backslash. -/
theorem parse_ports (protocol : String) (noProxy : Option String) :
    (∀ (pre post : String) (a b : UInt16) (v v' : ProxyVariable), a ≠ b →
      (parse protocol (some (numbered pre post a)) noProxy).1 = some v → v.port = a →
      (parse protocol (some (numbered pre post b)) noProxy).1 = some v' → v'.port = b →
      ∀ n : UInt16,
        parse protocol (some (numbered pre post n)) noProxy =
          (if n ≠ 0 ∧ (Url.defaultPort? v.scheme.toList = some n →
              FindsPort (readText (numbered pre post n))) then
            (some (withPort v n (authority (readText (numbered pre post n)))), [])
          else (none, [.variableRefused protocol
            (String.ofList (redacted (trim (numbered pre post n).toList))) .portMissing])) ∧
        (n ≠ 0 → ReadAsWritten (readText (numbered pre post a)) →
          ReadAsWritten (readText (numbered pre post n)) →
          parse protocol (some (numbered pre post n)) noProxy = (some { v with port := n }, []))) ∧
    (∀ value : String,
      (∀ v, (parse protocol (some value) noProxy).1 = some v →
        if portDigits (readText value) = [] then
          Url.defaultPort? v.scheme.toList = some v.port ∧ FindsPort (readText value) ∧
            ¬ ReadAsWritten (readText value)
        else Text.number? 10 (portDigits (readText value)) = some v.port.toNat) ∧
      ∀ url port, Url.parse (readText value) = .ok url → portDigits (readText value) = [] →
        Url.defaultPort? url.scheme = some port → FindsPort (readText value) →
        ∃ v, parse protocol (some value) noProxy = (some v, []) ∧ v.port = port) ∧
    ∀ l : Layout, ReadAsWritten l.text ↔ l.slashes = [] ∧ l.tail.head? ≠ some '\\' := by
  refine ⟨fun pre post a b v v' hne ha hporta hb hportb n => ⟨?_, fun hzero hreada hread => ?_⟩,
    fun value => ⟨fun v h => ?_, fun url port hurl hempty hdefault hfinds => ?_⟩,
    readAsWritten_text_iff⟩
  · obtain ⟨slot, -, -, -, hall⟩ := exists_slot hne ha hporta hb hportb
    exact (hall n).2.2
  · exact parse_eq_of_readAsWritten hne ha hporta hb hportb hreada hzero hread
  · split
    · next hempty => exact findsPort_of_portDigits h hempty
    · next hne => exact number?_portDigits h hne
  · exact exists_parse_of_findsPort hurl hempty hdefault hfinds protocol noProxy

/-- Behind a third slash 8080 and 8081 are ports, and 80 is none.  Behind a backslash the digits are
not read, and 80 is taken for granted. -/
theorem parse_ports_slashes :
    parse "http" (some (numbered "http:///[::1]:" "" 80)) none =
      (none, [.variableRefused "http" "http:///[::1]:80" .portMissing]) ∧
    ∃ v, parse "http" (some "http://proxy\\:8080") none = (some v, []) ∧ v.port = 80 := by
  obtain ⟨hports, hvalues, -⟩ := parse_ports "http" none
  constructor
  · let v (n : UInt16) : ProxyVariable := ⟨"http", "http", "::1", n, [], none, none⟩
    have ha : (parse "http" (some (numbered "http:///[::1]:" "" 8080)) none).1 = some (v 8080) := by
      decide +kernel
    have hb : (parse "http" (some (numbered "http:///[::1]:" "" 8081)) none).1 = some (v 8081) := by
      decide +kernel
    have hlost : ¬(80 ≠ (0 : UInt16) ∧ (Url.defaultPort? (v 8080).scheme.toList = some 80 →
        FindsPort (readText (numbered "http:///[::1]:" "" 80)))) := by decide +kernel
    have htext : String.ofList (redacted (trim (numbered "http:///[::1]:" "" 80).toList)) =
        "http:///[::1]:80" := by decide +kernel
    obtain ⟨hdefault, -⟩ := hports "http:///[::1]:" "" 8080 8081 (v 8080) (v 8081) (by decide) ha rfl
      hb rfl 80
    rw [hdefault, if_neg hlost, htext]
  · let l : Layout :=
      { blanks := [], scheme := "http".toList, slashes := []
        authority := "proxy".toList, tail := "\\:8080".toList
        blanks_blank := by simp
        scheme_ne := by simp
        scheme_first := by simp
        scheme_chars := by simp [Url.isSchemeChar]
        scheme_file := by decide
        slashes_slash := by simp
        slashes_special := by decide
        authority_ne := by simp
        authority_inner := by simp [Url.isAuthorityEnd, Url.isDropped]
        tail_end := by simp [Url.isAuthorityEnd, Url.isSpecial, Url.defaultPort?]
        authority_last := by simp }
    have htext : readText "http://proxy\\:8080" = l.text := by decide +kernel
    have hplain : Url.IsPlainName "proxy".toList :=
      ⟨by simp, by decide, 'p', "roxy".toList, by decide, by decide⟩
    have hread : Url.readAuthority "http".toList false "proxy".toList =
        .ok ⟨"http".toList, [], [], some (.name "proxy".toList), none⟩ := by
      have hcut : Text.cutLast? '@' "proxy".toList = none := by decide
      have hsplit : splitHost false "proxy".toList = ("proxy".toList, []) := by decide
      unfold Url.readAuthority
      simp only [hcut, hsplit, hplain.readHost_eq]
      rfl
    have hurl : Url.parse (readText "http://proxy\\:8080") =
        .ok ⟨"http".toList, [], [], some (.name "proxy".toList), none⟩ := by
      rw [htext, l.parse_text]
      exact hread
    have hdigits : portDigits (readText "http://proxy\\:8080") = [] := by
      rw [htext, Url.portDigits_eq l.authority?_text]
      decide
    exact (hvalues "http://proxy\\:8080").2 _ 80 hurl hdigits (by decide) (by decide +kernel)

end ProxyRouting.ProxyVariable
