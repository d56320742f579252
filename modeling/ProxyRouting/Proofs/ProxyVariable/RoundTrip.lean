import ProxyRouting.Proofs.ProxyVariable.Written

/-!
# Proxy variables that are written are read back

A value is read as what it was put together from: whatever the credentials are, with a scheme or
without, for each port, default or not, and whatever follows.  A scheme that is missing is http.

    withScheme (trim w.text) = w.layout.text
    Url.parse w.layout.text = .ok w.url
    parse protocol w.text noProxy = scheme, host, port and credentials of w          (parse_written)
-/

namespace ProxyRouting.ProxyVariable

open Text (trim trimRight isBlank)
open Destination (authorityMark upToDelimiter)
open Url (Layout)
open Url.Percent (encodeAll)

namespace Written

variable (w : Written)

/-! ## The URL -/

/-- The parts of the URL that is read. -/
def layout : Layout where
  blanks := []
  scheme := w.opening.scheme
  slashes := []
  authority := w.authority
  tail := trimRight w.tail
  blanks_blank := by simp
  scheme_ne := w.opening.isToken_scheme.ne
  scheme_first := by
    intro c hc
    show (c.isUpper || c.isLower) = true
    rw [w.opening.isToken_scheme.first c hc, Bool.or_true]
  scheme_chars := w.opening.isToken_scheme.isSchemeChar
  scheme_file := by
    rw [w.opening.isToken_scheme.map_toLower]
    exact w.opening.scheme_ne
  slashes_slash := by simp
  slashes_special := fun _ => rfl
  authority_ne := w.authority_ne
  authority_inner := by
    intro c hc
    have hinner := w.isInner_authority c hc
    exact ⟨Url.isAuthorityEnd_of_not hinner.not_end _, hinner.not_dropped⟩
  tail_end := by
    intro c hc
    have hdelimiter := w.tail_head c hc
    rw [Url.isAuthorityEnd, show (c == '/' || c == '?' || c == '#') = true from hdelimiter,
      Bool.true_or]
  authority_last := by
    intro _ c hc
    exact (w.isInner_authority c (List.mem_of_getLast? hc)).not_stripped

theorem lowerScheme_layout : w.layout.lowerScheme = w.opening.scheme :=
  w.opening.isToken_scheme.map_toLower

theorem trim_text : trim w.text = w.opening.text ++ (w.authority ++ trimRight w.tail) := by
  have hplain : ∀ c ∈ w.opening.text ++ w.authority, isBlank c = false := by
    intro c hc
    rcases List.mem_append.mp hc with hc | hc
    · exact w.opening.isBlank_text c hc
    · exact (w.isInner_authority c hc).not_trimmed
  have hne : w.opening.text ++ w.authority ≠ [] :=
    List.append_ne_nil_of_right_ne_nil _ w.authority_ne
  have htext : w.text = w.before ++ ((w.opening.text ++ w.authority) ++ (w.tail ++ w.after)) := by
    rw [text, List.append_assoc]
  rw [htext, Text.trim_append w.before_blank hne hplain, Text.trimRight_append_blanks w.after_blank,
    List.append_assoc]

theorem withScheme_trim : withScheme (trim w.text) = w.layout.text := by
  have hfirst : ∀ c ∈ (w.authority ++ trimRight w.tail).head?, c ≠ '/' := by
    obtain ⟨c, t, hct⟩ := List.exists_cons_of_ne_nil w.authority_ne
    have hc := w.isInner_authority c (by rw [hct]; exact List.mem_cons_self)
    rw [hct]
    rintro d ⟨⟩
    exact hc.ne_slash
  have hmark : authorityMark = [':', '/', '/'] := by decide
  rw [w.trim_text, w.opening.withScheme_text hfirst w.mark_notInfix, hmark]
  simp [Layout.text, layout]

theorem authority_layout : ProxyVariable.authority w.layout.text = w.authority := by
  have htail : upToDelimiter (trimRight w.tail) = [] := by
    cases ht : trimRight w.tail with
    | nil => rfl
    | cons c t =>
      have hc := w.tail_head c (by rw [ht]; rfl)
      exact List.takeWhile_cons_of_neg (by rw [hc]; decide)
  have hauthority : upToDelimiter ([] ++ (w.authority ++ trimRight w.tail)) =
      [] ++ (w.authority ++ upToDelimiter (trimRight w.tail)) :=
    upToDelimiter_text w.layout (by simp [layout])
  rw [authority_text w.layout]
  show upToDelimiter ([] ++ (w.authority ++ trimRight w.tail)) = _
  rw [hauthority, htail]
  simp

/-- What is read of a written value. -/
def url : Url where
  scheme := w.opening.scheme
  username := (Url.readUserInfo (w.info.getD [])).1
  password := (Url.readUserInfo (w.info.getD [])).2
  host := some w.host.host
  port := if Url.defaultPort? w.opening.scheme = some w.port then none else some w.port

theorem parse_layout : Url.parse w.layout.text = .ok w.url := by
  rw [Layout.parse_text, lowerScheme_layout]
  exact Url.readAuthority_withUserInfo w.at_notMem_hostPort
    (w.host.splitHost_text w.digits) (w.host.readHost_text _) (Url.readPort_toDigits _ _) _

theorem splitUserInfo_authority : splitUserInfo w.authority = (w.info, w.hostPort) :=
  splitUserInfo_withUserInfo w.at_notMem_hostPort w.info

/-! ## The port -/

theorem writesPort_hostPort : writesPort w.hostPort = true :=
  w.host.writesPort_text w.digits_ne fun _ => w.isDigit_digits

/-- A default port is left out of the URL and taken from its scheme. -/
theorem port?_url : port? w.url w.hostPort = some w.port :=
  (port?_eq rfl w.hostPort).trans (if_pos ⟨w.port_ne, fun _ => w.writesPort_hostPort⟩)

/-! ## The credentials -/

theorem decoded_encodeAll (s : List Char) : decoded (encodeAll s) = String.ofList s :=
  decoded_of_decode? (Url.Percent.decode?_encode (by decide) s)

theorem login?_authority :
    login? w.authority = w.login.map fun l => (encodeAll l.1, encodeAll l.2) := by
  unfold login?
  rw [w.splitUserInfo_authority, info, Option.map_map]
  cases w.login with
  | none => rfl
  | some l =>
    have hcolon : ':' ∉ encodeAll l.1 := fun h => (isAuthorityChar_of_mem_encodeAll h).2 rfl
    simp only [Option.map_some, Function.comp_apply, parts, Text.cut?_append hcolon,
      Option.getD_some]

theorem ofValue_trim (protocol : String) (noProxy : Option String) :
    ofValue protocol (trim w.text) noProxy =
      .ok ⟨protocol, String.ofList w.opening.scheme, String.ofList w.host.bare, w.port,
        (noProxy.map splitList).getD [], w.login.map fun l => String.ofList l.1,
        w.login.map fun l => String.ofList l.2⟩ := by
  have hurl : Url.parse (withScheme (trim w.text)) = .ok w.url := by
    rw [w.withScheme_trim, w.parse_layout]
  rw [ofValue_of_url hurl rfl w.host.text_ne, w.withScheme_trim, w.authority_layout,
    w.splitUserInfo_authority, w.port?_url, w.login?_authority]
  simp only [Option.map_map, Function.comp_def, decoded_encodeAll]
  rw [← w.host.withoutBrackets_text]
  rfl

end Written

/-! ## Top theorem -/

/-- **A value is read as what it was put together from.** -/
theorem parse_written (w : Written) (protocol : String) (noProxy : Option String) :
    parse protocol (some (String.ofList w.text)) noProxy =
      (some ⟨protocol, String.ofList w.opening.scheme, String.ofList w.host.bare, w.port,
        (noProxy.map splitList).getD [], w.login.map fun l => String.ofList l.1,
        w.login.map fun l => String.ofList l.2⟩, []) := by
  have hne : trim w.text ≠ [] := by
    rw [w.trim_text]
    exact List.append_ne_nil_of_right_ne_nil _ (List.append_ne_nil_of_left_ne_nil w.authority_ne _)
  obtain ⟨c, t, hct⟩ := List.exists_cons_of_ne_nil hne
  have hvalue := w.ofValue_trim protocol noProxy
  unfold parse
  rw [Option.map_some, String.toList_ofList]
  rw [hct] at hvalue ⊢
  simp only [hvalue]

/-- The default port of http after an address, and a password with an at-sign and a euro sign: none
of it is lost.  Nor is it with the scheme of another protocol, before a name. -/
theorem parse_written_defaultPort :
    parse "https" (some " //us%3Aer:p%40%E2%82%AC@[2001:db8::1]:80/a ") (some "a,, b") =
      (some ⟨"https", "http", "2001:db8::1", 80, ["a", "b"], some "us:er", some "p@€"⟩, []) ∧
    parse "http" (some "socks5://:@1.proxy:1080") none =
      (some ⟨"http", "socks5", "1.proxy", 1080, [], some "", some ""⟩, []) := by
  let w : Written :=
    { before := [' '], opening := .slashes
      login := some ("us:er".toList, "p@€".toList)
      host := .address ⟨#v[0x2001, 0xdb8, 0, 0, 0, 0, 0, 1]⟩ (by decide)
      port := 80, tail := "/a".toList, after := [' ']
      before_blank := by simp [isBlank]
      after_blank := by simp [isBlank]
      port_ne := by decide
      tail_delimited := by simp [Destination.isDelimiter]
      tail_unmarked := fun _ => by decide }
  let w' : Written :=
    { before := [], opening := .schemed "socks5".toList ⟨by decide, by simp, by simp⟩ (by decide)
      login := some ([], [])
      host := .name "1.proxy".toList ⟨by simp, by decide, 'p', "roxy".toList, by decide, by decide⟩
      port := 1080, tail := [], after := []
      before_blank := by simp [isBlank]
      after_blank := by simp [isBlank]
      port_ne := by decide
      tail_delimited := by simp [Destination.isDelimiter]
      tail_unmarked := fun _ => by decide }
  have hw : String.ofList w.text = " //us%3Aer:p%40%E2%82%AC@[2001:db8::1]:80/a " := by
    decide +kernel
  have hw' : String.ofList w'.text = "socks5://:@1.proxy:1080" := by
    decide +kernel
  have hread := parse_written w "https" (some "a,, b")
  have hread' := parse_written w' "http" none
  rw [hw] at hread
  rw [hw'] at hread'
  have hlist : splitList "a,, b" = ["a", "b"] := by decide +kernel
  have hhost : String.ofList w.host.bare = "2001:db8::1" := by decide +kernel
  rw [hread, hread', hhost, Option.map_some, hlist]
  exact ⟨rfl, rfl⟩

end ProxyRouting.ProxyVariable
