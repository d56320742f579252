import ProxyRouting.Proofs.Credentials
import ProxyRouting.Proofs.ProxyVariable.DefaultPort
import ProxyRouting.Proofs.ProxyVariable.Outcome
import ProxyRouting.Proofs.ProxyVariable.Written
import ProxyRouting.Proofs.Url.Host

/-!
# The value of a variable names the same proxy

The value that is shown for a variable is a URL of its parts, with stars for the password.  Of a
variable that was read each part is found again: scheme and port stand as they are, the host gets its
brackets back, and the username is not encoded, so that it may have no character that has to be.

    v.value = scheme ++ "://" ++ [user ++ ":***@"] ++ bracketed host ++ ":" ++ port
    parse protocol value noProxy gives v → v.IsFaithful                       (isFaithful_of_parse)
    v.IsFaithful → parse v.forProtocol v.value list = v with stars and that list      (parse_value)
-/

namespace ProxyRouting.ProxyVariable

open Text (trim)
open Destination (authorityMark bracketed withoutBrackets upToDelimiter IsSchemeToken)
open Url (Layout IsHostText)

/-- What needs no encoding anywhere in a URL. -/
def IsUnreserved (c : Char) : Prop :=
  c.isAlphanum = true ∨ c ∈ "-._~".toList

/-- The parts of a variable can be found in its value. -/
structure IsFaithful (v : ProxyVariable) : Prop where
  scheme_token : IsSchemeToken v.scheme.toList
  scheme_ne : v.scheme.toList ≠ "file".toList
  host_read : ∃ host : Url.Host, v.host.toList = withoutBrackets host.text ∧ IsHostText host.text ∧
    Url.readHost (Url.isSpecial v.scheme.toList) host.text = .ok (some host)
  port_ne : v.port ≠ 0
  username_plain : ∀ user ∈ v.username, ∀ c ∈ user.toList, IsUnreserved c
  login : v.username.isSome = v.password.isSome

/-! ## The value -/

section
variable (v : ProxyVariable)

/-- The credentials as they are shown. -/
def shownInfo : Option (List Char) :=
  v.username.map fun user => user.toList ++ ":***".toList

def shownHostPort : List Char :=
  bracketed v.host.toList ++ ':' :: Nat.toDigits 10 v.port.toNat

def shownAuthority : List Char :=
  Url.withUserInfo v.shownInfo v.shownHostPort

theorem shownAuthority_ne : v.shownAuthority ≠ [] := by
  unfold shownAuthority shownHostPort
  cases v.shownInfo with
  | none => simp [Url.withUserInfo]
  | some info => simp [Url.withUserInfo]

theorem toList_value :
    v.value.toList = v.scheme.toList ++ (authorityMark ++ v.shownAuthority) := by
  have hmark : "://".toList = authorityMark := by decide
  have hhost : (hostPort (if ':' ∈ v.host.toList then "[" ++ v.host ++ "]" else v.host)
      v.port).toList = v.shownHostPort := by
    rw [hostPort_toList, shownHostPort, bracketed]
    split <;> simp
  unfold value shownAuthority shownInfo
  cases v.username with
  | none => simp [hhost, hmark, Url.withUserInfo]
  | some user => simp [hhost, hmark, Url.withUserInfo]

end

/-! ## Reading it back -/

theorem isInner_of_isNameChar {c : Char} (h : Url.isNameChar c = true) : IsInner c ∧ c ≠ '@' := by
  let P (c : Char) : Prop := Url.isNameChar c = true → (Url.isAuthorityEnd true c = false ∧
    Url.isDropped c = false ∧ Url.isBlank c = false ∧ Text.isBlank c = false) ∧ c ≠ '@'
  have hall : P c := Text.forall_ascii (P := P) (by decide +kernel) (Url.toNat_lt_of_isNameChar h)
  obtain ⟨⟨hend, hdropped, hstripped, htrimmed⟩, hat⟩ := hall h
  exact ⟨⟨hend, hdropped, hstripped, htrimmed⟩, hat⟩

theorem IsUnreserved.isAuthorityChar {c : Char} (h : IsUnreserved c) :
    isAuthorityChar c = true ∧ c ≠ ':' ∧ c ≠ '%' := by
  rcases h with h | h
  · refine ⟨isAuthorityChar_of_isAlphanum h, ?_, ?_⟩
    · rintro rfl
      exact absurd h (by decide)
    · rintro rfl
      exact absurd h (by decide)
  · have hall : ∀ d ∈ "-._~".toList, ProxyVariable.isAuthorityChar d = true ∧ d ≠ ':' ∧ d ≠ '%' :=
      Text.forall_mem (by decide)
    exact hall c h

namespace IsFaithful

variable {v : ProxyVariable} (h : v.IsFaithful)

include h

/-- The host is shown as a URL has it. -/
theorem exists_host : ∃ host : Url.Host, bracketed v.host.toList = host.text ∧
    IsHostText host.text ∧ withoutBrackets host.text = v.host.toList ∧
    Url.readHost (Url.isSpecial v.scheme.toList) host.text = .ok (some host) := by
  obtain ⟨host, hhost, htext, hread⟩ := h.host_read
  exact ⟨host, by rw [hhost, htext.bracketed_withoutBrackets], htext, hhost.symm, hread⟩

theorem shownHostPort_chars : ∀ c ∈ v.shownHostPort, IsInner c ∧ c ≠ '@' := by
  obtain ⟨host, heq, htext, -, -⟩ := h.exists_host
  intro c hc
  rw [shownHostPort, heq, List.mem_append, List.mem_cons] at hc
  rcases hc with hc | rfl | hc
  · rcases htext.isNameChar_or hc with hname | rfl | rfl | rfl
    · exact isInner_of_isNameChar hname
    all_goals exact ⟨isInner_of_isAuthorityChar (by decide), by decide⟩
  · exact ⟨isInner_of_isAuthorityChar (by decide), by decide⟩
  · have hdigit : c.isDigit = true := Nat.isDigit_of_mem_toDigits (by decide) (by decide) hc
    refine ⟨isInner_of_isAuthorityChar (isAuthorityChar_of_isAlphanum ?_), ?_⟩
    · rw [Char.isAlphanum, hdigit, Bool.or_true]
    · rintro rfl
      exact absurd hdigit (by decide)

theorem at_notMem : '@' ∉ v.shownHostPort := fun hmem =>
  (h.shownHostPort_chars _ hmem).2 rfl

theorem isInner_shownAuthority : ∀ c ∈ v.shownAuthority, IsInner c := by
  intro c hc
  unfold shownAuthority shownInfo at hc
  cases huser : v.username with
  | none =>
    rw [huser] at hc
    exact (h.shownHostPort_chars c hc).1
  | some user =>
    have hmem : c ∈ user.toList ∨ c ∈ ":***@".toList ∨ c ∈ v.shownHostPort := by
      rw [huser] at hc
      simpa [Url.withUserInfo, or_assoc] using hc
    rcases hmem with hc | hc | hc
    · exact isInner_of_isAuthorityChar (h.username_plain user huser c hc).isAuthorityChar.1
    · have hall : ∀ d ∈ ":***@".toList, Url.isAuthorityEnd true d = false ∧
          Url.isDropped d = false ∧ Url.isBlank d = false ∧ Text.isBlank d = false :=
        Text.forall_mem (by decide)
      obtain ⟨hend, hdropped, hstripped, htrimmed⟩ := hall c hc
      exact ⟨hend, hdropped, hstripped, htrimmed⟩
    · exact (h.shownHostPort_chars c hc).1

/-- The value as the text of a URL. -/
def layout : Layout where
  blanks := []
  scheme := v.scheme.toList
  slashes := []
  authority := v.shownAuthority
  tail := []
  blanks_blank := Layout.no_blanks
  scheme_ne := h.scheme_token.ne
  scheme_first := by
    intro c hc
    show (c.isUpper || c.isLower) = true
    rw [h.scheme_token.first c hc, Bool.or_true]
  scheme_chars := h.scheme_token.isSchemeChar
  scheme_file := by
    rw [h.scheme_token.map_toLower]
    exact h.scheme_ne
  slashes_slash := Layout.no_slashes
  slashes_special := fun _ => rfl
  authority_ne := v.shownAuthority_ne
  authority_inner := fun c hc =>
    have hinner := h.isInner_shownAuthority c hc
    ⟨Url.isAuthorityEnd_of_not hinner.not_end _, hinner.not_dropped⟩
  tail_end := nofun
  authority_last := fun _ c hc =>
    (h.isInner_shownAuthority c (List.mem_of_getLast? hc)).not_stripped

theorem text_layout : h.layout.text = v.value.toList := by
  have hmark : authorityMark = [':', '/', '/'] := by decide
  rw [toList_value, hmark]
  simp [Layout.text, layout]

/-- The value has a scheme, and no blanks around it. -/
theorem withScheme_trim : withScheme (trim v.value.toList) = h.layout.text := by
  let o : Opening := .schemed v.scheme.toList h.scheme_token h.scheme_ne
  have hvalue : v.value.toList = o.text ++ v.shownAuthority := by
    rw [toList_value]
    exact (List.append_assoc ..).symm
  have hplain : ∀ c ∈ o.text ++ v.shownAuthority, Text.isBlank c = false := by
    intro c hc
    rcases List.mem_append.mp hc with hc | hc
    · exact o.isBlank_text c hc
    · exact (h.isInner_shownAuthority c hc).not_trimmed
  have hne : o.text ++ v.shownAuthority ≠ [] :=
    List.append_ne_nil_of_right_ne_nil _ v.shownAuthority_ne
  have htrim : trim (o.text ++ v.shownAuthority) = o.text ++ v.shownAuthority := by
    have hkept := Text.trim_append (b := []) (by simp) hne hplain []
    rwa [List.nil_append, List.append_nil, Text.trimRight, List.reverse_nil, List.dropWhile_nil,
      List.reverse_nil, List.append_nil] at hkept
  have hfirst : ∀ c ∈ v.shownAuthority.head?, c ≠ '/' := fun c hc =>
    (h.isInner_shownAuthority c (List.mem_of_mem_head? hc)).ne_slash
  have hschemed : o = .bare ∨ o = .slashes → ¬ authorityMark <:+: v.shownAuthority := by
    simp [o]
  rw [hvalue, htrim, o.withScheme_text hfirst hschemed, h.text_layout, toList_value]
  rfl

theorem authority_layout : authority h.layout.text = v.shownAuthority := by
  have hauthority : upToDelimiter ([] ++ (v.shownAuthority ++ [])) =
      [] ++ (v.shownAuthority ++ upToDelimiter []) :=
    upToDelimiter_text h.layout (by simp [layout])
  rw [authority_text h.layout]
  show upToDelimiter ([] ++ (v.shownAuthority ++ [])) = _
  rw [hauthority, List.nil_append, upToDelimiter, List.takeWhile_nil, List.append_nil]

theorem parse_layout {host : Url.Host} (heq : bracketed v.host.toList = host.text)
    (htext : IsHostText host.text)
    (hread : Url.readHost (Url.isSpecial v.scheme.toList) host.text = .ok (some host)) :
    Url.parse h.layout.text = .ok ⟨v.scheme.toList, (Url.readUserInfo (v.shownInfo.getD [])).1,
      (Url.readUserInfo (v.shownInfo.getD [])).2, some host,
      if Url.defaultPort? v.scheme.toList = some v.port then none else some v.port⟩ := by
  have hscheme : h.layout.lowerScheme = v.scheme.toList := h.scheme_token.map_toLower
  have hsplit : Url.splitHost false v.shownHostPort =
      (host.text, ':' :: Nat.toDigits 10 v.port.toNat) := by
    rw [shownHostPort, heq]
    exact htext.splitHost_eq _
  rw [Layout.parse_text, hscheme]
  exact Url.readAuthority_withUserInfo h.at_notMem hsplit hread (Url.readPort_toDigits _ _) _

theorem splitUserInfo_shownAuthority :
    splitUserInfo v.shownAuthority = (v.shownInfo, v.shownHostPort) :=
  splitUserInfo_withUserInfo h.at_notMem v.shownInfo

/-- The username is found again, with stars for the password. -/
theorem login?_shownAuthority : login? v.shownAuthority =
    v.username.map fun user => (user.toList, "***".toList) := by
  unfold login?
  rw [h.splitUserInfo_shownAuthority]
  unfold shownInfo
  cases huser : v.username with
  | none => rfl
  | some user =>
    have hcolon : ':' ∉ user.toList := fun hmem =>
      (h.username_plain user huser ':' hmem).isAuthorityChar.2.1 rfl
    have hcut : Text.cut? ':' (user.toList ++ ":***".toList) = some (user.toList, "***".toList) :=
      Text.cut?_append hcolon "***".toList
    simp only [Option.map_some, parts, hcut, Option.getD_some]

theorem decoded_username {user : String} (huser : user ∈ v.username) :
    decoded user.toList = user := by
  have hpercent : '%' ∉ user.toList := fun hmem =>
    (h.username_plain user huser '%' hmem).isAuthorityChar.2.2 rfl
  rw [decoded_of_decode? (Url.Percent.decode?_eq_self hpercent), String.ofList_toList]

theorem parse_value (noProxy : Option String) :
    parse v.forProtocol (some v.value) noProxy =
      (some { v with
        noProxyHosts := (noProxy.map splitList).getD []
        password := v.password.map fun _ => "***" }, []) := by
  obtain ⟨host, heq, htext, hbare, hread⟩ := h.exists_host
  have hurl := h.parse_layout heq htext hread
  have hwrites : writesPort v.shownHostPort = true := by
    rw [shownHostPort, heq]
    exact writesPort_of_host hread Nat.toDigits_ne_nil fun _ =>
      Nat.isDigit_of_mem_toDigits (by decide) (by decide)
  have hstars : decoded "***".toList = "***" := by decide +kernel
  have hlogin : (v.username.map fun user => decoded user.toList) = v.username ∧
      (v.username.map fun _ => "***") = v.password.map fun _ => "***" := by
    have hboth := h.login
    cases huser : v.username with
    | none =>
      rw [huser] at hboth
      have hpassword : v.password = none := Option.not_isSome_iff_eq_none.mp (by simp [← hboth])
      rw [hpassword]
      exact ⟨rfl, rfl⟩
    | some user =>
      rw [huser] at hboth
      obtain ⟨password, hpassword⟩ := Option.isSome_iff_exists.mp hboth.symm
      rw [hpassword, Option.map_some, h.decoded_username huser]
      exact ⟨rfl, rfl⟩
  refine parse_of_ok ?_
  rw [← h.withScheme_trim] at hurl
  have hvalue := ofValue_of_url hurl rfl htext.ne_nil v.forProtocol noProxy
  rw [h.withScheme_trim, h.authority_layout, h.splitUserInfo_shownAuthority,
    port?_eq rfl, if_pos ⟨h.port_ne, fun _ => hwrites⟩, h.login?_shownAuthority, Option.map_map,
    Option.map_map] at hvalue
  rw [hvalue, hbare]
  simp only [Function.comp_def, String.ofList_toList, hstars, hlogin.1, hlogin.2]

end IsFaithful

/-! ## What is read -/

theorem isSchemeToken_of_splitScheme? {s scheme rest : List Char}
    (h : Url.splitScheme? s = some (scheme, rest)) : IsSchemeToken scheme := by
  let P (c : Char) : Prop := Url.isSchemeChar c = true →
    (c.isAlpha = true → c.toLower.isLower = true) ∧
      (c.toLower.isLower = true ∨ c.toLower.isDigit = true ∨ c.toLower ∈ ['+', '-', '.'])
  have hlower {c : Char} (hc : Url.isSchemeChar c = true) :
      (c.isAlpha = true → c.toLower.isLower = true) ∧
        (c.toLower.isLower = true ∨ c.toLower.isDigit = true ∨ c.toLower ∈ ['+', '-', '.']) := by
    have hlt : c.toNat < 0x80 := by
      have := Url.toNat_of_isSchemeChar hc
      omega
    have hall : P c := Text.forall_ascii (P := P) (by decide +kernel) hlt
    exact hall hc
  unfold Url.splitScheme? at h
  split at h
  · next c t =>
    split at h
    · cases h
    · next hfirst =>
      simp only [Bool.not_eq_true, Bool.not_eq_false'] at hfirst
      have hchar : Url.isSchemeChar c = true := by
        simp [Url.isSchemeChar, Char.isAlphanum, hfirst]
      split at h
      · cases h
        refine ⟨by simp [hchar], ?_, ?_⟩
        · rw [List.takeWhile_cons_of_pos hchar]
          rintro d ⟨⟩
          exact (hlower hchar).1 hfirst
        · rw [List.forall_mem_map]
          exact fun d hd => (hlower (List.mem_takeWhile_imp hd)).2
      · cases h
  · cases h

/-- What is read of a value can be found in the value that is shown. -/
theorem isFaithful_of_parse {protocol value : String} {noProxy : Option String} {v : ProxyVariable}
    (h : (parse protocol (some value) noProxy).1 = some v)
    (huser : ∀ user ∈ v.username, ∀ c ∈ user.toList, IsUnreserved c)
    (hname : Url.isSpecial v.scheme.toList = true → Url.Host.IsOwnForm v.host.toList) :
    v.IsFaithful := by
  have hsound := isSound_of_ofValue (parse_eq_some_iff.mp h)
  obtain ⟨url, text, hurl, htext, -, hport, hv⟩ := exists_url_of_parse h
  obtain ⟨url', read, isLast, hurl', hscheme, -, -, hread⟩ := exists_authority_of_parse h
  obtain rfl : url = url' := Except.ok.inj (hurl.symm.trans hurl')
  obtain ⟨rest, hsplit⟩ := Url.parse_scheme hurl
  obtain ⟨host, hhost, rfl⟩ := Option.map_eq_some_iff.mp htext
  have hreadHost := (Url.readAuthority_ok hread).2
  rw [hhost] at hreadHost
  have hbare : v.host.toList = withoutBrackets host.text := by
    rw [hv]
    exact String.toList_ofList
  constructor
  · rw [hscheme]
    exact isSchemeToken_of_splitScheme? hsplit
  · rw [hscheme]
    intro hfile
    have heffective := effectivePort?_of_port? hport
    rw [Url.effectivePort?_of_file hurl hfile] at heffective
    cases heffective
  · refine ⟨host, hbare, Url.isHostText_of_readHost hreadHost, ?_⟩
    rw [hscheme] at hname ⊢
    refine Url.readHost_text hreadHost fun hspecial name heq => ?_
    have hown := hname hspecial
    have hcases := (Url.isHostText_of_readHost hreadHost).withoutBrackets_cases
    obtain ⟨hsame, -⟩ | ⟨a, -, haddress⟩ := hcases
    · rwa [hbare, hsame, heq] at hown
    · rw [heq] at haddress
      have hbrackets : name = '[' :: a.text ++ [']'] := haddress
      refine Url.Host.isOwnForm_of_colon ?_
      rw [hbrackets, List.cons_append]
      exact List.mem_cons_of_mem _ (List.mem_append_left _ a.colon_mem_text)
  · exact hsound.port_ne
  · exact huser
  · exact hsound.login

/-! ## Top theorem -/

/-- **The value of a variable names the same proxy.**  Read with another list, the value that is
shown for a variable gives that variable, with stars for its password and the other list, and so the
same value again; unless the username has characters that need encoding.  A domain name has to be
its own form. -/
theorem value_denotes_proxy {protocol : String} {value noProxy : Option String} {v : ProxyVariable}
    (h : (parse protocol value noProxy).1 = some v)
    (huser : ∀ user ∈ v.username, ∀ c ∈ user.toList, IsUnreserved c)
    (hname : Url.isSpecial v.scheme.toList = true → Url.Host.IsOwnForm v.host.toList)
    (list : Option String) :
    ∃ v', parse v.forProtocol (some v.value) list = (some v', []) ∧
      v' = { v with
        noProxyHosts := (list.map splitList).getD []
        password := v.password.map fun _ => "***" } ∧
      v'.value = v.value := by
  cases value with
  | none => cases h
  | some value => exact ⟨_, (isFaithful_of_parse h huser hname).parse_value list, rfl, rfl⟩

/-- An address with the default port of its scheme gets its brackets and that port back; a name is
in lower case, but of another scheme it keeps its capitals, and what is encoded in it stays so. -/
theorem value_denotes_proxy_brackets :
    let u : ProxyVariable := ⟨"http", "https", "proxy.example", 443, [], none, none⟩
    let v : ProxyVariable := ⟨"https", "http", "2001:db8::1", 80, ["a"], some "b-c.d", some "p@"⟩
    let w : ProxyVariable := ⟨"ftp", "socks5", "Proxy%20", 1080, [], none, none⟩
    parse "http" (some "https://Proxy.Example:443") none = (some u, []) ∧
      (∃ u', parse "http" (some u.value) none = (some u', []) ∧
        u' = u ∧ u'.value = u.value) ∧
      parse "https" (some " HTTP://b-c.d:p%40@[2001:db8:0::1]:80/x") (some "a") = (some v, []) ∧
      v.value = "http://b-c.d:***@[2001:db8::1]:80" ∧
      (∃ v', parse "https" (some v.value) none = (some v', []) ∧
        v' = { v with noProxyHosts := [], password := some "***" } ∧ v'.value = v.value) ∧
      parse "ftp" (some "Socks5://Proxy%20:1080") none = (some w, []) ∧
      ∃ w', parse "ftp" (some w.value) (some "b,") = (some w', []) ∧
        w' = { w with noProxyHosts := ["b"] } ∧ w'.value = w.value := by
  intro u v w
  have hu : parse "http" (some "https://Proxy.Example:443") none = (some u, []) := by
    decide +kernel
  have hv : parse "https" (some " HTTP://b-c.d:p%40@[2001:db8:0::1]:80/x") (some "a") =
      (some v, []) := by decide +kernel
  have hw : parse "ftp" (some "Socks5://Proxy%20:1080") none = (some w, []) := by decide +kernel
  have huser : ∀ user ∈ v.username, ∀ c ∈ user.toList, IsUnreserved c := by
    simp [v, IsUnreserved]
  have hname : Url.Host.IsOwnForm u.host.toList := fun _ _ => by decide +kernel
  have haddress : Url.Host.IsOwnForm v.host.toList := Url.Host.isOwnForm_of_colon (by decide)
  have hlist : splitList "b," = ["b"] := by decide +kernel
  refine ⟨hu, ?_, hv, by decide +kernel, ?_, hw, ?_⟩
  · exact value_denotes_proxy (by rw [hu]) (by simp [u]) (fun _ => hname) none
  · exact value_denotes_proxy (by rw [hv]) huser (fun _ => haddress) none
  · rw [← hlist]
    exact value_denotes_proxy (by rw [hw]) (by simp [w]) (fun h => absurd h (by decide)) (some "b,")

end ProxyRouting.ProxyVariable
