import ProxyRouting.Proofs.Bypass
import ProxyRouting.Proofs.HostPattern.Spelling
import ProxyRouting.Proofs.ProxyVariable.Login
import ProxyRouting.Proofs.Rules.FirstFault
import ProxyRouting.Proofs.Url.Host

/-!
# What reading a proxy variable can give

A blank value gives nothing, a value that names no proxy is reported once, and one that names a proxy
gives it without a report.  What a variable gives has a host without brackets and a port
(`IsSound`), so of the checks of its server record only that of the patterns can fail.

    parse protocol value noProxy = (none, []) ∨ (none, [event]) ∨ (some v, [])     (parse_outcomes)
    v.IsSound → compileRules [v.toServer] succeeds, or fails at servers[0].notForHosts[j]
-/

namespace ProxyRouting

/-! ## Patterns -/

theorem HostPattern.exists_compile_star : ∃ p, compile "*" = .ok p := by
  obtain ⟨p, hp, -⟩ := (covers_star_iff "").mpr List.not_mem_nil
  exact ⟨p, hp⟩

/-- Only expressions and patterns with a star can be at fault. -/
theorem HostPattern.form_of_compile_error {text : String} {e : PatternError}
    (h : compile text = .error e) :
    (∃ body : String, body ≠ "" ∧ text = "/" ++ body ++ "/") ∨ '*' ∈ text.toList := by
  by_contra hform
  rw [not_or, not_exists] at hform
  rw [compile_of_plain hform.2 fun body hne heq => hform.1 body ⟨hne, heq⟩] at h
  cases h

namespace ProxyVariable

open Text (trim)
open Destination (withoutUserInfo)

/-! ## What a variable gives -/

/-- What can be relied on of what a variable says; a pattern of its list may still be at fault. -/
structure IsSound (v : ProxyVariable) : Prop where
  host_ne : v.host ≠ ""
  host_bare : ∀ inner, v.host ≠ "[" ++ inner ++ "]"
  port_ne : v.port ≠ 0
  login : v.username.isSome = v.password.isSome
  entries : ∀ entry ∈ v.noProxyHosts,
    entry ≠ "" ∧ Text.IsTrimmed entry.toList ∧ ',' ∉ entry.toList

/-- The value is a URL, or one without its scheme, with a host and a port other than zero, which is
the URL's own or is written. -/
def NamesProxy (value : List Char) : Prop :=
  ∃ url host port, Url.parse (withScheme value) = .ok url ∧ url.hostText? = some host ∧ host ≠ [] ∧
    url.effectivePort? = some port ∧ port ≠ 0 ∧
    (url.port = none → WritesPort (withoutUserInfo (authority (withScheme value))))

theorem exists_ofValue_iff (protocol : String) (value : List Char) (noProxy : Option String) :
    (∃ v, ofValue protocol value noProxy = .ok v) ↔ NamesProxy value := by
  have hport (url : Url) (port : UInt16) :
      port? url (splitUserInfo (authority (withScheme value))).2 = some port ↔
        url.effectivePort? = some port ∧ port ≠ 0 ∧
          (url.port = none → WritesPort (withoutUserInfo (authority (withScheme value)))) := by
    rw [splitUserInfo_snd]
    exact port?_eq_some_iff
  constructor
  · rintro ⟨v, h⟩
    obtain ⟨url, host, hurl, hhost, hne⟩ := exists_of_ofValue h
    rw [ofValue_of_url hurl hhost hne] at h
    split at h
    · next port hread => exact ⟨url, host, port, hurl, hhost, hne, (hport url port).mp hread⟩
    · cases h
  · rintro ⟨url, host, port, hurl, hhost, hne, hwritten⟩
    rw [ofValue_of_url hurl hhost hne, (hport url port).mpr hwritten]
    exact ⟨_, rfl⟩

/-- A file has no port, so the host of a URL with one is read from its authority. -/
theorem withoutBrackets_host {s hostPort host : List Char} {url : Url} {port : UInt16}
    (hurl : Url.parse s = .ok url) (hhost : url.hostText? = some host)
    (hport : port? url hostPort = some port) :
    Destination.withoutBrackets host ≠ [] ∧
      (Destination.withoutBrackets host).head? ≠ some '[' := by
  obtain ⟨a, ha, rfl⟩ := Option.map_eq_some_iff.mp hhost
  have hfile : url.scheme ≠ "file".toList := by
    intro hfile
    have := Url.effectivePort?_of_file hurl hfile
    rw [effectivePort?_of_port? hport] at this
    cases this
  obtain ⟨text, isLast, -, hread⟩ :=
    Url.parse_authority hurl (by rw [ha]; exact Option.some_ne_none a) hfile
  have hreadHost := (Url.readAuthority_ok hread).2
  rw [ha] at hreadHost
  exact (Url.isHostText_of_readHost hreadHost).withoutBrackets_ne

theorem isSound_of_ofValue {protocol : String} {value : List Char} {noProxy : Option String}
    {v : ProxyVariable} (h : ofValue protocol value noProxy = .ok v) : v.IsSound := by
  obtain ⟨url, host, hurl, hhost, hne⟩ := exists_of_ofValue h
  rw [ofValue_of_url hurl hhost hne] at h
  split at h
  · next port hport =>
    cases h
    obtain ⟨hbare, hhead⟩ := withoutBrackets_host hurl hhost hport
    constructor
    · exact fun hempty => hbare (String.ofList_eq_empty_iff.mp hempty)
    · intro inner heq
      have hlist := congrArg String.toList heq
      rw [String.toList_ofList] at hlist
      rw [hlist] at hhead
      simp at hhead
    · have hzero := (Option.filter_eq_some_iff.mp hport).2
      simpa using hzero
    · simp
    · intro entry hentry
      cases noProxy with
      | none => cases hentry
      | some text => exact of_mem_splitList hentry
  · cases h

/-! ## The record of a variable -/

/-- The record compiles, or a pattern of the list cannot be compiled. -/
theorem compile_toServer {v : ProxyVariable} (hv : v.IsSound) :
    (∃ rule, v.toServer.compile = .ok rule) ∨
      ∃ (fault : RecordFault) (j : Nat) (text : String), v.toServer.compile = .error fault ∧
        fault.kind = .invalidPattern ∧ fault.path = ".notForHosts[" ++ toString j ++ "]" ∧
        v.noProxyHosts[j]? = some text ∧ ∃ e, HostPattern.compile text = .error e := by
  cases hcompile : v.toServer.compile with
  | ok rule => exact .inl ⟨rule, rfl⟩
  | error fault =>
    have hfirst := ServerRecord.compile_error hcompile
    generalize hpath : fault.path = path at hfirst
    generalize hkind : fault.kind = kind at hfirst
    have hfor : v.toServer.forHosts = if v.noProxyHosts.isEmpty then ["*"] else [] := rfl
    have hnot : v.toServer.notForHosts = v.noProxyHosts := rfl
    cases hfirst with
    | host h =>
      rcases h with h | h
      · cases h
      · exact absurd (Option.some.inj h) hv.host_ne
    | port _ h =>
      rcases h with h | h
      · cases h
      · exact absurd (Option.some.inj h) hv.port_ne
    | noPatterns _ _ hnoFor hnoNot =>
      rw [hfor, ← hnot, hnoNot] at hnoFor
      cases hnoFor
    | bothLists _ _ hsomeFor hsomeNot =>
      rw [hfor] at hsomeFor
      rw [hnot] at hsomeNot
      simp [hsomeNot] at hsomeFor
    | forHosts _ _ hnoNot h =>
      rw [hfor, ← hnot, hnoNot] at h
      obtain ⟨text, htext, hbad⟩ := h.exists_mem
      obtain rfl := List.mem_singleton.mp htext
      exact absurd ⟨by decide, HostPattern.exists_compile_star⟩ hbad
    | notForHosts _ _ _ h =>
      rw [hnot] at h
      obtain ⟨j, text, hj, rfl, hempty | ⟨rfl, he⟩⟩ := h.exists_getElem?
      · exact absurd hempty (hv.entries text (List.mem_of_getElem? hj)).1
      · exact .inr ⟨fault, j, text, rfl, hkind, hpath, hj, he⟩

/-- There is a rule for the record, or else an entry of its list is an expression or a pattern with
a star and is at fault. -/
def FailsAtPatternsOnly (v : ProxyVariable) : Prop :=
  (∃ rule, (compileRules [v.toServer]).1 = .ok [rule]) ∨
    ∃ (fault : RecordFault) (j : Nat) (text : String),
      (compileRules [v.toServer]).1 = .error (.record 0 fault) ∧ fault.kind = .invalidPattern ∧
      Error.field 0 fault = "servers[0].notForHosts[" ++ toString j ++ "]" ∧
      v.noProxyHosts[j]? = some text ∧
      ((∃ body : String, body ≠ "" ∧ text = "/" ++ body ++ "/") ∨ '*' ∈ text.toList)

theorem IsSound.failsAtPatternsOnly {v : ProxyVariable} (hv : v.IsSound) :
    v.FailsAtPatternsOnly := by
  obtain ⟨rule, hrule⟩ | ⟨fault, j, text, hfault, hkind, hpath, hj, e, he⟩ := compile_toServer hv
  · exact .inl ⟨rule, compileRules_ok_iff.mpr (.cons hrule .nil)⟩
  · refine .inr ⟨fault, j, text, ?_, hkind, ?_, hj, HostPattern.form_of_compile_error he⟩
    · rw [compileRules, compileFrom, hfault]
    · have hprefix : "servers[" ++ toString 0 ++ "]" ++ ".notForHosts[" = "servers[0].notForHosts[" := by
        decide +kernel
      rw [Error.field, hpath, ← hprefix]
      simp only [String.append_assoc]

/-! ## Top theorem -/

/-- There is nothing but white space in the value, or no value at all. -/
def IsBlank (value : Option String) : Prop :=
  ∀ text ∈ value, ∀ c ∈ text.toList, Text.isBlank c = true

/-- **Three outcomes.**  A value that is missing or blank gives nothing and is not reported; any
other gives nothing and is reported as one error, or names a proxy, which is not reported.  The
proxy then has a host without brackets, a port, username and password or neither, and a list of
trimmed entries; its server record compiles, or an expression or a pattern with a star in the list
is at fault. -/
theorem parse_outcomes (protocol : String) (value noProxy : Option String) :
    (IsBlank value ∧ parse protocol value noProxy = (none, [])) ∨
    (¬ IsBlank value ∧ (∀ text ∈ value, ¬ NamesProxy (trim text.toList)) ∧
      ∃ event : Event, event.level = .error ∧ parse protocol value noProxy = (none, [event])) ∨
    (¬ IsBlank value ∧ (∀ text ∈ value, NamesProxy (trim text.toList)) ∧
      ∃ v, parse protocol value noProxy = (some v, []) ∧ v.IsSound ∧ v.FailsAtPatternsOnly) := by
  cases value with
  | none => exact .inl ⟨fun text htext => (nomatch htext), rfl⟩
  | some text =>
    have hblank : IsBlank (some text) ↔ trim text.toList = [] := by
      rw [Text.trim_eq_nil_iff, IsBlank]
      simp
    have hnames := exists_ofValue_iff protocol (trim text.toList) noProxy
    by_cases hnil : trim text.toList = []
    · refine .inl ⟨hblank.mpr hnil, ?_⟩
      unfold parse
      rw [Option.map_some, hnil]
    · right
      rw [hblank]
      cases hvalue : ofValue protocol (trim text.toList) noProxy with
      | error fault =>
        refine .inl ⟨hnil, fun t ht => ?_, _, rfl, parse_of_error hnil hvalue⟩
        obtain rfl := Option.some.inj ht
        rw [← hnames, hvalue]
        exact fun ⟨v, hv⟩ => nomatch hv
      | ok v =>
        have hsound := isSound_of_ofValue hvalue
        refine .inr ⟨hnil, fun t ht => ?_, v, parse_of_ok hvalue, hsound,
          hsound.failsAtPatternsOnly⟩
        obtain rfl := Option.some.inj ht
        exact hnames.mp ⟨v, hvalue⟩

/-- Nothing but blanks, a default port that is not written, and a proxy.  Of the list that goes with
the proxy the second entry is an expression that is at fault. -/
theorem parse_outcomes_each :
    parse "http" (some " \t") none = (none, []) ∧
    (∃ event : Event, event.level = .error ∧
      parse "http" (some "http://[::1]") none = (none, [event])) ∧
    ∃ v, parse "http" (some "u@[::1]:80") (some "a, /(/") = (some v, []) ∧ v.IsSound ∧
      v.FailsAtPatternsOnly ∧ (v.host, v.noProxyHosts) = ("::1", ["a", "/(/"]) ∧
      (compileRules [v.toServer]).1.isOk = false := by
  refine ⟨?_, ?_, ?_⟩
  · have hquiet : (parse "http" (some " \t") none).2 = [] := by decide +kernel
    have hnone : (parse "http" (some " \t") none).1 = none := by decide +kernel
    obtain ⟨-, h⟩ | ⟨-, -, event, -, h⟩ | ⟨-, -, v, h, -⟩ := parse_outcomes "http" (some " \t") none
    · exact h
    · rw [h] at hquiet
      cases hquiet
    · rw [h] at hnone
      cases hnone
  · have htold : (parse "http" (some "http://[::1]") none).2 ≠ [] := by decide +kernel
    obtain ⟨-, h⟩ | ⟨-, -, h⟩ | ⟨-, -, v, h, -⟩ := parse_outcomes "http" (some "http://[::1]") none
    · exact absurd (congrArg Prod.snd h) htold
    · exact h
    · exact absurd (congrArg Prod.snd h) htold
  · have hsome : (parse "http" (some "u@[::1]:80") (some "a, /(/")).1.map
        (fun v => ((v.host, v.noProxyHosts), (compileRules [v.toServer]).1.isOk)) =
          some (("::1", ["a", "/(/"]), false) := by decide +kernel
    obtain ⟨-, h⟩ | ⟨-, -, event, -, h⟩ | ⟨-, -, v, h, hsound, hfails⟩ :=
      parse_outcomes "http" (some "u@[::1]:80") (some "a, /(/")
    · rw [h] at hsome
      cases hsome
    · rw [h] at hsome
      cases hsome
    · rw [h, Option.map_some, Option.some.injEq, Prod.mk.injEq] at hsome
      exact ⟨v, h, hsound, hfails, hsome⟩

end ProxyVariable

end ProxyRouting
