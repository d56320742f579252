import ProxyRouting.Proofs.Text.Digit
import ProxyRouting.Proofs.Url.Hierarchy

/-!
# What is read as the authority

The reader of URLs looks for the authority in its own way (`authority?`): after the scheme and, of a
special scheme, after all slashes and backslashes, in a text without tabs and line breaks.  A URL
with a host has the user information of that authority.  Of a text that is put together from its
parts (`Layout`) it is the part of that name.

    parse s = .ok url → the user information of url is that of the authority of s
    authority? layout.text = some layout.authority
    parse layout.text = readAuthority layout.scheme layout.tail.isEmpty layout.authority
-/

namespace ProxyRouting.Url

open Destination (withoutUserInfo)

/-- What the reader of URLs takes for the authority of a text, if there is one. -/
def authority? (s : List Char) : Option (List Char) := do
  let (scheme, rest) ← splitScheme? (stripped s)
  let text ←
    if isSpecial scheme then some (rest.dropWhile isSlash)
    else
      match rest with
      | '/' :: '/' :: rest => some rest
      | _ => none
  return text.takeWhile fun c => !isAuthorityEnd (isSpecial scheme) c

/-! ## After the scheme -/

section
variable {s scheme rest : List Char} (hsplit : splitScheme? (stripped s) = some (scheme, rest))

include hsplit

theorem parse_of_special (hspecial : isSpecial scheme = true) :
    parse s = readHierarchy scheme (rest.dropWhile isSlash) ∧
      authority? s =
        some ((rest.dropWhile isSlash).takeWhile fun c => !isAuthorityEnd (isSpecial scheme) c) := by
  have hfile : scheme ≠ "file".toList := by
    rintro rfl
    revert hspecial
    decide
  unfold parse authority?
  simp only [hsplit, Option.bind_eq_bind, Option.bind_some]
  rw [if_neg hfile, if_pos hspecial, if_pos hspecial]
  exact ⟨rfl, rfl⟩

variable (hspecial : isSpecial scheme = false) (hfile : scheme ≠ "file".toList)

include hspecial hfile

theorem parse_of_slashes {r : List Char} (hrest : rest = '/' :: '/' :: r) :
    parse s = readHierarchy scheme r ∧
      authority? s = some (r.takeWhile fun c => !isAuthorityEnd (isSpecial scheme) c) := by
  unfold parse authority?
  simp only [hsplit, hrest, Option.bind_eq_bind, Option.bind_some]
  rw [if_neg hfile, hspecial]
  exact ⟨rfl, rfl⟩

theorem parse_of_no_slashes (hrest : ∀ r, rest ≠ '/' :: '/' :: r) :
    parse s = .ok ⟨scheme, [], [], none, none⟩ := by
  unfold parse
  simp only [hsplit, hfile, hspecial, if_false, Bool.false_eq_true]

end

/-! ## The authority of a URL -/

/-- A URL with a host is read from its authority, unless it is that of a file. -/
theorem parse_authority {s : List Char} {url : Url} (h : parse s = .ok url)
    (hhost : url.host ≠ none) (hfile : url.scheme ≠ "file".toList) :
    ∃ authority isLast, authority? s = some authority ∧
      readAuthority url.scheme isLast authority = .ok url := by
  obtain ⟨rest, hsplit⟩ := parse_scheme h
  cases hspecial : isSpecial url.scheme with
  | true =>
    obtain ⟨hparse, hauthority⟩ := parse_of_special hsplit hspecial
    exact ⟨_, _, hauthority, hparse.symm.trans h⟩
  | false =>
    by_cases hrest : ∃ r, rest = '/' :: '/' :: r
    · obtain ⟨r, hr⟩ := hrest
      obtain ⟨hparse, hauthority⟩ := parse_of_slashes hsplit hspecial hfile hr
      exact ⟨_, _, hauthority, hparse.symm.trans h⟩
    · rw [parse_of_no_slashes hsplit hspecial hfile fun r hr => hrest ⟨r, hr⟩] at h
      rw [← Except.ok.inj h] at hhost
      exact absurd rfl hhost

/-- A URL of a file has no port. -/
theorem effectivePort?_of_file {s : List Char} {url : Url} (h : parse s = .ok url)
    (hfile : url.scheme = "file".toList) : url.effectivePort? = none := by
  obtain ⟨rest, hsplit⟩ := parse_scheme h
  have hport : url.port = none := by
    unfold parse at h
    simp only [hsplit] at h
    rw [if_pos hfile] at h
    exact (readFile_ok h).2
  rw [effectivePort?, hport, hfile]
  rfl

/-- User information, if there is some, before host and port. -/
def withUserInfo (info : Option (List Char)) (hostPort : List Char) : List Char :=
  match info with
  | some info => info ++ '@' :: hostPort
  | none => hostPort

theorem cutLast?_withUserInfo {hostPort : List Char} (h : '@' ∉ hostPort)
    (info : Option (List Char)) :
    Text.cutLast? '@' (withUserInfo info hostPort) = info.map fun info => (info, hostPort) := by
  cases info with
  | some info => exact Text.cutLast?_append h info
  | none => exact Text.cutLast?_eq_none_iff.mpr h

theorem exists_withUserInfo (s : List Char) :
    ∃ info hostPort, s = withUserInfo info hostPort ∧ '@' ∉ hostPort := by
  cases hcut : Text.cutLast? '@' s with
  | none => exact ⟨none, s, rfl, Text.cutLast?_eq_none_iff.mp hcut⟩
  | some r =>
    obtain ⟨hs, hat⟩ := Text.cutLast?_eq_some_iff.mp hcut
    exact ⟨some r.1, r.2, hs, hat⟩

theorem withoutUserInfo_withUserInfo {hostPort : List Char} (h : '@' ∉ hostPort)
    (info : Option (List Char)) : withoutUserInfo (withUserInfo info hostPort) = hostPort := by
  have hcut := cutLast?_withUserInfo h info
  unfold withoutUserInfo
  cases info with
  | none => rw [hcut]; rfl
  | some info => rw [hcut]; rfl

theorem withUserInfo_append (info : Option (List Char)) (s t : List Char) :
    withUserInfo info s ++ t = withUserInfo info (s ++ t) := by
  cases info with
  | none => rfl
  | some info => exact List.append_assoc ..

/-- The default port of the scheme is left out. -/
theorem readPort_of_number {s : List Char} {port : UInt16} (hne : s.takeWhile (· != '\\') ≠ [])
    (hnumber : Text.number? 10 (s.takeWhile (· != '\\')) = some port.toNat) (scheme : List Char) :
    readPort scheme s = .ok (if defaultPort? scheme = some port then none else some port) := by
  have hfilter : (Text.number? 10 (s.takeWhile (· != '\\'))).filter (· < 65536) =
      some port.toNat := by
    rw [hnumber]
    simpa using port.toNat_lt
  unfold readPort
  simp only [hfilter, UInt16.ofNat_toNat, List.isEmpty_eq_false_iff.mpr hne, Bool.false_or,
    beq_iff_eq]

theorem readPort_toDigits (scheme : List Char) (port : UInt16) :
    readPort scheme (Nat.toDigits 10 port.toNat) =
      .ok (if defaultPort? scheme = some port then none else some port) := by
  have hplain : (Nat.toDigits 10 port.toNat).takeWhile (· != '\\') =
      Nat.toDigits 10 port.toNat := by
    refine List.takeWhile_eq_self_iff.mpr fun c hc => ?_
    rw [bne_iff_ne]
    rintro rfl
    exact absurd (Nat.isDigit_of_mem_toDigits (by decide) (by decide) hc) (by decide)
  refine readPort_of_number ?_ ?_ scheme
  · rw [hplain]
    exact Nat.toDigits_ne_nil
  · rw [hplain, Text.number?_toDigits (by decide) (by decide)]

/-- An authority put together from user information, a host that is not missing, and a port. -/
theorem readAuthority_withUserInfo_eq {scheme hostPort hostText digits : List Char}
    {info : Option (List Char)} (hat : '@' ∉ hostPort)
    (hsplit : splitHost false hostPort = (hostText, ':' :: digits)) (isLast : Bool) :
    readAuthority scheme isLast (withUserInfo info hostPort) = do
      let host ← readHost (isSpecial scheme) hostText
      if host.isNone then throw .emptyHost
      let port ← readPort scheme digits
      return ⟨scheme, (readUserInfo (info.getD [])).1, (readUserInfo (info.getD [])).2, host,
        port⟩ := by
  have hcut := cutLast?_withUserInfo hat info
  have hempty : hostPort.isEmpty = false := by
    cases hostPort with
    | nil => cases hsplit
    | cons c t => rfl
  unfold readAuthority
  cases info with
  | some info => simp [hcut, hempty, hsplit]
  | none =>
    have hwith : withUserInfo none hostPort = hostPort := rfl
    rw [hwith] at hcut ⊢
    simp [hcut, hsplit]

theorem readAuthority_withUserInfo {scheme hostPort hostText digits : List Char}
    {info : Option (List Char)} {host : Host} {port : Option UInt16} (hat : '@' ∉ hostPort)
    (hsplit : splitHost false hostPort = (hostText, ':' :: digits))
    (hhost : readHost (isSpecial scheme) hostText = .ok (some host))
    (hport : readPort scheme digits = .ok port) (isLast : Bool) :
    readAuthority scheme isLast (withUserInfo info hostPort) =
      .ok ⟨scheme, (readUserInfo (info.getD [])).1, (readUserInfo (info.getD [])).2, some host,
        port⟩ := by
  rw [readAuthority_withUserInfo_eq hat hsplit, hhost, hport]
  rfl

/-! ## Texts put together -/

/-- The parts of a text with a scheme and an authority.  There may be more slashes than two where
the scheme is special, and backslashes for slashes. -/
structure Layout where
  blanks : List Char
  scheme : List Char
  slashes : List Char
  authority : List Char
  tail : List Char
  blanks_blank : ∀ c ∈ blanks, isBlank c = true
  scheme_ne : scheme ≠ []
  scheme_first : ∀ c ∈ scheme.head?, c.isAlpha = true
  scheme_chars : ∀ c ∈ scheme, isSchemeChar c = true
  scheme_file : scheme.map Char.toLower ≠ "file".toList
  slashes_slash : ∀ c ∈ slashes, isSlash c = true
  slashes_special : isSpecial (scheme.map Char.toLower) = false → slashes = []
  authority_ne : authority ≠ []
  authority_inner : ∀ c ∈ authority,
    isAuthorityEnd (isSpecial (scheme.map Char.toLower)) c = false ∧ isDropped c = false
  tail_end : ∀ c ∈ tail.head?, isAuthorityEnd (isSpecial (scheme.map Char.toLower)) c = true
  authority_last : tail = [] → ∀ c ∈ authority.getLast?, isBlank c = false

namespace Layout

variable (l : Layout)

/-- The scheme of the URL, in lower case. -/
def lowerScheme : List Char :=
  l.scheme.map Char.toLower

def text : List Char :=
  l.blanks ++ (l.scheme ++ ':' :: ('/' :: '/' :: (l.slashes ++ l.authority) ++ l.tail))

theorem no_blanks : ∀ c ∈ ([] : List Char), isBlank c = true :=
  List.forall_mem_nil _

theorem no_slashes : ∀ c ∈ ([] : List Char), isSlash c = true :=
  List.forall_mem_nil _

theorem isDropped_of_isSlash {c : Char} (h : isSlash c = true) : isDropped c = false := by
  simp only [isSlash, Bool.or_eq_true, beq_iff_eq] at h
  rcases h with rfl | rfl
  all_goals decide

/-- Only the tail is changed, and not at its first character. -/
theorem stripped_text : ∃ rest, stripped l.text =
    l.scheme ++ ':' :: ('/' :: '/' :: (l.slashes ++ l.authority) ++ rest) ∧
      rest.head? = l.tail.head? := by
  have hinner : ∀ c ∈ l.slashes ++ l.authority, isDropped c = false := by
    intro c hc
    rcases List.mem_append.mp hc with hc | hc
    · exact isDropped_of_isSlash (l.slashes_slash c hc)
    · exact (l.authority_inner c hc).2
  refine stripped_hierarchy l.blanks_blank l.scheme_chars hinner
    (List.append_ne_nil_of_right_ne_nil _ l.authority_ne)
    (fun c hc => isBlank_of_isAuthorityEnd (l.tail_end c hc)) fun ht c hc => ?_
  rw [List.getLast?_append_of_ne_nil _ l.authority_ne] at hc
  exact l.authority_last ht c hc

theorem splitScheme?_text (rest : List Char) :
    splitScheme? (l.scheme ++ ':' :: rest) = some (l.lowerScheme, rest) :=
  splitScheme?_colon l.scheme_chars l.scheme_ne l.scheme_first rest

/-- The first character after the slashes is none. -/
theorem dropWhile_isSlash (h : isSpecial l.lowerScheme = true) (rest : List Char) :
    ('/' :: '/' :: (l.slashes ++ l.authority) ++ rest).dropWhile isSlash = l.authority ++ rest := by
  have hslashes : ∀ c ∈ '/' :: '/' :: l.slashes, isSlash c = true := by
    intro c hc
    simp only [List.mem_cons] at hc
    rcases hc with rfl | rfl | hc
    · decide
    · decide
    · exact l.slashes_slash c hc
  have hinner : ∀ c ∈ l.authority, isAuthorityEnd true c = false := by
    intro c hc
    rw [← h]
    exact (l.authority_inner c hc).1
  have hdrop := dropWhile_slashes hslashes hinner l.authority_ne rest
  rwa [← List.append_assoc, List.cons_append, List.cons_append] at hdrop

/-- After the slashes the text is read as a hierarchy. -/
theorem parse_eq_readHierarchy : ∃ rest, rest.head? = l.tail.head? ∧
    parse l.text = readHierarchy l.lowerScheme (l.authority ++ rest) ∧
    authority? l.text = some ((l.authority ++ rest).takeWhile fun c =>
      !isAuthorityEnd (isSpecial l.lowerScheme) c) := by
  obtain ⟨rest, hstripped, hhead⟩ := l.stripped_text
  refine ⟨rest, hhead, ?_⟩
  have hsplit : splitScheme? (stripped l.text) =
      some (l.lowerScheme, '/' :: '/' :: (l.slashes ++ l.authority) ++ rest) := by
    rw [hstripped, l.splitScheme?_text]
  by_cases hspecial : isSpecial l.lowerScheme = true
  · rw [← l.dropWhile_isSlash hspecial]
    exact parse_of_special hsplit hspecial
  · rw [Bool.not_eq_true] at hspecial
    rw [l.slashes_special hspecial] at hsplit
    exact parse_of_slashes hsplit hspecial l.scheme_file rfl

theorem authority?_text : authority? l.text = some l.authority := by
  obtain ⟨rest, hhead, -, hauthority⟩ := l.parse_eq_readHierarchy
  have hin : ∀ c ∈ l.authority, (!isAuthorityEnd (isSpecial l.lowerScheme) c) = true := by
    intro c hc
    rw [lowerScheme, (l.authority_inner c hc).1, Bool.not_false]
  rw [hauthority, List.takeWhile_append_of_pos hin]
  cases rest with
  | nil => simp
  | cons c t =>
    have hc := l.tail_end c (by rw [← hhead]; rfl)
    rw [List.takeWhile_cons_of_neg (by rw [lowerScheme, hc]; decide), List.append_nil]

/-- The authority is read, and whether a tail follows it. -/
theorem parse_text : parse l.text = readAuthority l.lowerScheme l.tail.isEmpty l.authority := by
  obtain ⟨rest, hhead, hparse, -⟩ := l.parse_eq_readHierarchy
  have hempty : rest.isEmpty = l.tail.isEmpty := by
    cases rest <;> cases ht : l.tail <;> simp_all
  have hread : readHierarchy l.lowerScheme (l.authority ++ rest) =
      readAuthority l.lowerScheme rest.isEmpty l.authority :=
    readHierarchy_append (fun c hc => (l.authority_inner c hc).1) fun c hc =>
      l.tail_end c (by rwa [← hhead])
  rw [hparse, hread, hempty]

end Layout

end ProxyRouting.Url
