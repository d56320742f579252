import ProxyRouting.Proofs.Url.Authority

/-!
# The port of a URL

The port is the number that the digits after the host write, or the default of the scheme where there
are none.

    parse s = .ok url → the port of url is the number of portDigits s, or the default    (parse_port)
-/

namespace ProxyRouting.Url

open Destination (withoutUserInfo)

/-- What is read as the number of a port in an authority. -/
def portText (authority : List Char) : List Char :=
  ((splitHost false (withoutUserInfo authority)).2.drop 1).takeWhile (· != '\\')

/-- The digits that are read for a port, if there are any. -/
def portDigits (s : List Char) : List Char :=
  ((authority? s).map portText).getD []

theorem portDigits_eq {s authority : List Char} (h : authority? s = some authority) :
    portDigits s = portText authority := by
  rw [portDigits, h]
  rfl

theorem portText_withUserInfo {hostPort : List Char} (h : '@' ∉ hostPort)
    (info : Option (List Char)) : portText (withUserInfo info hostPort) =
      ((splitHost false hostPort).2.drop 1).takeWhile (· != '\\') := by
  rw [portText, withoutUserInfo_withUserInfo h]

/-- Unless a backslash cuts them off, all that follows the colon is read. -/
theorem portText_eq_drop {s : List Char} (h : '\\' ∉ s) :
    portText s = (splitHost false (withoutUserInfo s)).2.drop 1 := by
  obtain ⟨info, hostPort, rfl, hat⟩ := exists_withUserInfo s
  rw [portText_withUserInfo hat, withoutUserInfo_withUserInfo hat]
  refine List.takeWhile_eq_self_iff.mpr fun c hc => ?_
  rw [bne_iff_ne]
  rintro rfl
  have hmem : '\\' ∈ hostPort := by
    rw [← splitHost_join false hostPort]
    exact List.mem_append_right _ (List.mem_of_mem_drop hc)
  refine h ?_
  cases info with
  | none => exact hmem
  | some info => exact List.mem_append_right _ (List.mem_cons_of_mem _ hmem)

theorem readPort_ok {scheme s : List Char} {port : Option UInt16} (h : readPort scheme s = .ok port) :
    ∃ n < 65536, Text.number? 10 (s.takeWhile (· != '\\')) = some n ∧
      if s.takeWhile (· != '\\') = [] then port = none
      else port.or (defaultPort? scheme) = some (UInt16.ofNat n) := by
  unfold readPort at h
  simp only at h
  split at h
  · cases h
  · next n hn =>
    obtain ⟨hnumber, hlt⟩ := Option.filter_eq_some_iff.mp hn
    refine ⟨n, by simpa using hlt, hnumber, ?_⟩
    by_cases hempty : s.takeWhile (· != '\\') = []
    · rw [if_pos hempty]
      rw [hempty] at h
      cases h
      rfl
    · rw [if_neg hempty]
      rw [List.isEmpty_eq_false_iff.mpr hempty, Bool.false_or] at h
      split at h
      · next hdefault =>
        cases h
        exact beq_iff_eq.mp hdefault
      · cases h
        rfl

/-- The port of an authority is written, or it is left to the scheme. -/
theorem readAuthority_port {scheme s : List Char} {isLast : Bool} {url : Url}
    (h : readAuthority scheme isLast s = .ok url) :
    ∃ n < 65536, Text.number? 10 (portText s) = some n ∧
      if portText s = [] then url.port = none
      else url.effectivePort? = some (UInt16.ofNat n) := by
  obtain ⟨hscheme, -, -, hport⟩ := readAuthority_parts h
  obtain ⟨n, hlt, hnumber, heq⟩ := readPort_ok hport
  refine ⟨n, hlt, hnumber, ?_⟩
  rw [effectivePort?, hscheme]
  exact heq

/-- Where the digits and the default are the same the port is. -/
theorem effectivePort?_eq {scheme scheme' s s' : List Char} {isLast isLast' : Bool} {url url' : Url}
    (h : readAuthority scheme isLast s = .ok url) (h' : readAuthority scheme' isLast' s' = .ok url')
    (hport : portText s = portText s') (hdefault : defaultPort? scheme = defaultPort? scheme') :
    url.effectivePort? = url'.effectivePort? := by
  obtain ⟨n, -, hn, heq⟩ := readAuthority_port h
  obtain ⟨n', -, hn', heq'⟩ := readAuthority_port h'
  rw [← hport] at hn' heq'
  cases hn.symm.trans hn'
  split at heq
  · next hempty =>
    rw [if_pos hempty] at heq'
    rw [effectivePort?, effectivePort?, heq, heq', (readAuthority_parts h).1,
      (readAuthority_parts h').1, hdefault]
  · next hne =>
    rw [if_neg hne] at heq'
    rw [heq, heq']

/-- The port of a URL with a host is written, or it is left to the scheme. -/
theorem parse_port {s : List Char} {url : Url} (h : parse s = .ok url) (hhost : url.host ≠ none)
    (hfile : url.scheme ≠ "file".toList) :
    ∃ n < 65536, Text.number? 10 (portDigits s) = some n ∧
      if portDigits s = [] then url.port = none
      else url.effectivePort? = some (UInt16.ofNat n) := by
  obtain ⟨authority, isLast, hauthority, hread⟩ := parse_authority h hhost hfile
  rw [portDigits_eq hauthority]
  exact readAuthority_port hread

/-! ## Special schemes -/

/-- A backslash ends the authority. -/
theorem backslash_notMem_of_authority? {s authority : List Char} {url : Url} (h : parse s = .ok url)
    (hspecial : isSpecial url.scheme = true) (hauthority : authority? s = some authority) :
    '\\' ∉ authority := by
  obtain ⟨rest, hsplit⟩ := parse_scheme h
  unfold authority? at hauthority
  simp only [hsplit, hspecial, if_true, Option.bind_eq_bind, Option.bind_some] at hauthority
  cases hauthority
  intro hmem
  have hend : isAuthorityEnd true '\\' = true := by decide
  have := List.mem_takeWhile_imp hmem
  rw [hend] at this
  cases this

theorem Host.text_ne_of_parse {s : List Char} {host : Host} (h : Host.parse s = .ok host) :
    host.text ≠ [] := by
  unfold Host.parse at h
  split at h
  · unfold Host.parseBracketed at h
    split at h
    · cases h
    · split at h
      · cases h
        exact List.cons_ne_nil _ _
      · cases h
  · unfold Host.parseDomain at h
    split at h
    · cases h
    · cases h
    · next domain hne _ =>
      split at h
      · split at h
        · next address _ =>
          cases h
          show ['.'].intercalate _ ≠ []
          rw [List.map_cons, List.map_cons, List.intercalate_cons_cons]
          exact List.append_ne_nil_of_left_ne_nil
            (List.append_ne_nil_of_left_ne_nil Nat.toDigits_ne_nil _) _
        · cases h
      · cases h
        exact fun hnil => hne hnil

/-- There is always a host. -/
theorem exists_hostText?_of_special {s : List Char} {url : Url} (h : parse s = .ok url)
    (hspecial : isSpecial url.scheme = true) : ∃ host, url.hostText? = some host ∧ host ≠ [] := by
  obtain ⟨rest, hsplit⟩ := parse_scheme h
  have hread := (parse_of_special hsplit hspecial).1.symm.trans h
  obtain ⟨-, -, hhost, -⟩ := readAuthority_parts hread
  simp only [hspecial] at hhost
  have hne : (splitHost false (withoutUserInfo ((rest.dropWhile isSlash).takeWhile
      fun c => !isAuthorityEnd true c))).1 ≠ [] := by
    intro hnil
    rw [hnil] at hhost
    cases hhost
  obtain ⟨a, ha, hparse⟩ := readHost_ok hne hhost
  exact ⟨a.text, by rw [hostText?, ha]; rfl, Host.text_ne_of_parse hparse⟩

/-- Without digits no port is read. -/
theorem port_eq_none {s : List Char} {url : Url} (h : parse s = .ok url)
    (hspecial : isSpecial url.scheme = true) (hempty : portDigits s = []) : url.port = none := by
  obtain ⟨host, hhost, -⟩ := exists_hostText?_of_special h hspecial
  have hsome : url.host ≠ none := by
    intro hnone
    rw [hostText?, hnone] at hhost
    cases hhost
  have hfile : url.scheme ≠ "file".toList := by
    intro hfile
    rw [hfile] at hspecial
    revert hspecial
    decide
  obtain ⟨n, -, -, hport⟩ := parse_port h hsome hfile
  rwa [if_pos hempty] at hport

end ProxyRouting.Url
