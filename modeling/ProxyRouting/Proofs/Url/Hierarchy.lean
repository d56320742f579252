import Mathlib.Data.List.TakeWhile
import ProxyRouting.Destination.Uri
import ProxyRouting.Proofs.Text.Blank
import ProxyRouting.Proofs.Text.Cut
import ProxyRouting.Proofs.Text.Digit

/-!
# Reading URLs with and without an authority

What the reader of URLs makes of a text that is put together from blanks, a scheme, two slashes, an
authority and a tail, step by step: what is stripped, where the scheme ends, where the authority
ends, and what of it is the host.  Where no slash follows the scheme there is none.

    parse (blanks ++ scheme ++ "://" ++ authority ++ tail) = .ok url → the host of the URL is read
      from the host of the authority
    parse (blanks ++ scheme ++ ":" ++ path) = .ok url → the URL has no host (parse_host_none)
-/

namespace ProxyRouting.Url

open Destination (withoutUserInfo)

/-! ## Addresses in brackets -/

/-- Without a colon at most the two groups of a dotted address are read. -/
theorem Ipv6.readGroups_of_not_mem {room : Nat} {s : List Char} {d : Ipv6.Draft}
    (hs : ':' ∉ s) (h : Ipv6.readGroups room [] none s = some d) :
    d.gap = none ∧ d.groups.length ≤ 2 := by
  unfold Ipv6.readGroups at h
  split at h
  · cases h
    exact ⟨rfl, Nat.zero_le _⟩
  · cases h
  · next c t =>
    have hc : c ≠ ':' := by
      rintro rfl
      exact hs (List.mem_cons_self ..)
    rw [if_neg (by simpa using hc)] at h
    simp only at h
    split at h
    · cases h
      exact ⟨rfl, by simp⟩
    · next rest hrest =>
      have hmem : ':' ∈ c :: t := List.mem_of_mem_drop (by rw [hrest]; exact List.mem_cons_self ..)
      exact absurd hmem hs
    · split at h
      · cases h
      · obtain ⟨⟨x, y⟩, -, he⟩ := Option.map_eq_some_iff.mp h
        cases he
        exact ⟨rfl, by simp⟩
    · cases h

theorem Ipv6.colon_mem_of_parse? {s : List Char} {a : Ipv6} (h : Ipv6.parse? s = some a) :
    ':' ∈ s := by
  apply Classical.byContradiction
  intro hs
  unfold Ipv6.parse? at h
  simp only at h
  split at h
  · exact hs (List.mem_cons_self ..)
  · exact hs (List.mem_cons_self ..)
  · cases h
  · cases h
  · obtain ⟨d, hd, ha⟩ := Option.bind_eq_some_iff.mp h
    obtain ⟨hgap, hlen⟩ := Ipv6.readGroups_of_not_mem hs hd
    unfold Ipv6.Draft.address? at ha
    simp only [hgap] at ha
    rw [dif_neg (by omega)] at ha
    cases ha

/-- An address in brackets has a colon. -/
theorem Host.colon_mem_of_parseBracketed {s : List Char} {host : Host}
    (h : Host.parseBracketed (s ++ [']']) = .ok host) : ':' ∈ s := by
  unfold Host.parseBracketed at h
  rw [List.dropLast_concat] at h
  split at h
  · cases h
  · cases ha : Ipv6.parse? s with
    | none =>
      rw [ha] at h
      cases h
    | some a => exact Ipv6.colon_mem_of_parse? ha

/-- Four bytes with dots are written with digits. -/
theorem Ipv6.isDigit_of_dotted? {s : List Char} {r : Nat × Nat} (h : Ipv6.dotted? s = some r) :
    ∀ c ∈ s, c.isDigit = true ∨ c = '.' := by
  have hbytes {pieces : List (List Char)} {bytes : List Nat}
      (h : pieces.mapM Ipv6.byte? = some bytes) : ∀ piece ∈ pieces, ∀ c ∈ piece,
        c.isDigit = true := by
    induction pieces generalizing bytes with
    | nil => simp
    | cons piece pieces ih =>
      rw [List.mapM_cons] at h
      obtain ⟨n, hn, h⟩ := Option.bind_eq_some_iff.mp h
      obtain ⟨rest, hrest, -⟩ := Option.bind_eq_some_iff.mp h
      have hpiece : ∀ c ∈ piece, c.isDigit = true := by
        unfold Ipv6.byte? at hn
        split at hn
        · cases hn
        · exact Text.isDigit_of_number? (Option.filter_eq_some_iff.mp hn).1
      simpa using ⟨hpiece, ih hrest⟩
  unfold Ipv6.dotted? at h
  split at h
  · next a b c d heq =>
    intro c hc
    by_cases hdot : c = '.'
    · exact .inr hdot
    · obtain ⟨piece, hpiece, hmem⟩ := Text.exists_mem_splitAt hdot hc
      exact .inl (hbytes heq piece hpiece c hmem)
  · cases h

/-- A character is one of the digits of a group, or it follows them. -/
theorem Ipv6.hexValue?_or_mem_drop {s : List Char} {c : Char} (hc : c ∈ s) :
    (Text.hexValue? c).isSome = true ∨
      c ∈ s.drop ((s.take 4).takeWhile fun c => (Text.hexValue? c).isSome).length := by
  have hprefix : (s.take 4).takeWhile (fun c => (Text.hexValue? c).isSome) <+: s :=
    (List.takeWhile_prefix _).trans (List.take_prefix _ _)
  rw [← List.take_append_drop ((s.take 4).takeWhile fun c => (Text.hexValue? c).isSome).length s,
    ← List.prefix_iff_eq_take.mp hprefix, List.mem_append] at hc
  exact hc.imp_left (List.mem_takeWhile_imp (p := fun c => (Text.hexValue? c).isSome))

theorem Ipv6.bracket_notMem_of_readGroups {room : Nat} {done : List Nat} {gap : Option Nat}
    {s : List Char} {d : Ipv6.Draft} (h : Ipv6.readGroups room done gap s = some d) : ']' ∉ s := by
  induction room generalizing done gap s with
  | zero =>
    cases s with
    | nil => exact List.not_mem_nil
    | cons c s => cases h
  | succ room ih =>
    cases s with
    | nil => exact List.not_mem_nil
    | cons c s =>
      intro hbracket
      by_cases hc : (c == ':') = true
      · rw [Ipv6.readGroups, if_pos hc] at h
        split at h
        · cases h
        · rw [beq_iff_eq.mp hc] at hbracket
          exact ih h ((List.mem_cons.mp hbracket).resolve_left (by decide))
      · have hrest := (Ipv6.hexValue?_or_mem_drop hbracket).resolve_left (by decide)
        rw [Ipv6.readGroups, if_neg hc] at h
        simp only at h
        split at h
        · next heq =>
          rw [heq] at hrest
          cases hrest
        · next rest heq =>
          rw [heq] at hrest
          split at h
          · cases h
          · exact ih h ((List.mem_cons.mp hrest).resolve_left (by decide))
        · split at h
          · cases h
          · obtain ⟨r, hr, -⟩ := Option.map_eq_some_iff.mp h
            exact absurd (Ipv6.isDigit_of_dotted? hr _ hbracket) (by decide)
        · cases h

theorem Ipv6.bracket_notMem_of_parse? {s : List Char} {a : Ipv6} (h : Ipv6.parse? s = some a) :
    ']' ∉ s := by
  unfold Ipv6.parse? at h
  simp only at h
  intro hbracket
  split at h
  · obtain ⟨d, hd, -⟩ := Option.bind_eq_some_iff.mp h
    exact Ipv6.bracket_notMem_of_readGroups hd (by simpa using hbracket)
  · cases h
  · cases h
  · cases h
  · obtain ⟨d, hd, -⟩ := Option.bind_eq_some_iff.mp h
    exact Ipv6.bracket_notMem_of_readGroups hd hbracket

/-- An address in brackets ends at the first closing bracket. -/
theorem Host.exists_of_parseBracketed {s : List Char} {host : Host}
    (h : Host.parseBracketed s = .ok host) : ∃ inner, s = inner ++ [']'] ∧ ']' ∉ inner := by
  unfold Host.parseBracketed at h
  split at h
  · cases h
  · next hlast =>
    rw [bne_iff_ne, not_not] at hlast
    cases ha : Ipv6.parse? s.dropLast with
    | none =>
      rw [ha] at h
      cases h
    | some a =>
      obtain ⟨inner, rfl⟩ := List.getLast?_eq_some_iff.mp hlast
      rw [List.dropLast_concat] at ha
      exact ⟨inner, rfl, Ipv6.bracket_notMem_of_parse? ha⟩

/-! ## Blanks -/

/-- A tab or line break, which is dropped wherever it stands. -/
def isDropped (c : Char) : Bool :=
  c == '\t' || c == '\n' || c == '\r'

theorem isDropped_of_not_isBlank {c : Char} (h : isBlank c = false) : isDropped c = false := by
  cases hc : isDropped c with
  | false => rfl
  | true =>
    simp only [isDropped, Bool.or_eq_true, beq_iff_eq] at hc
    rcases hc with (rfl | rfl) | rfl
    all_goals exact absurd h (by decide)

theorem isBlank_of_isSchemeChar {c : Char} (h : isSchemeChar c = true) : isBlank c = false := by
  have := toNat_of_isSchemeChar h
  simp [isBlank]
  omega

/-- Blanks around a text are stripped; what follows `core` keeps its first character. -/
theorem stripped_append {blanks core tail : List Char} (hblanks : ∀ c ∈ blanks, isBlank c = true)
    (hfirst : ∀ c ∈ core.head?, isBlank c = false) (hcore : ∀ c ∈ core, isDropped c = false)
    (hne : core ≠ []) (htail : ∀ c ∈ tail.head?, isBlank c = false)
    (hlast : tail = [] → ∀ c ∈ core.getLast?, isBlank c = false) :
    ∃ rest, stripped (blanks ++ (core ++ tail)) = core ++ rest ∧ rest.head? = tail.head? := by
  have hleft : (blanks ++ (core ++ tail)).dropWhile isBlank = core ++ tail := by
    rw [List.dropWhile_append_of_pos hblanks]
    obtain ⟨c, t, rfl⟩ := List.exists_cons_of_ne_nil hne
    exact List.dropWhile_cons_of_neg (by simp [hfirst c rfl])
  have hfilter : core.filter (fun c => !isDropped c) = core :=
    List.filter_eq_self.mpr fun c hc => by simp [hcore c hc]
  show ∃ rest, (((blanks ++ (core ++ tail)).dropWhile isBlank).reverse.dropWhile
    isBlank).reverse.filter (fun c => !isDropped c) = core ++ rest ∧ _
  rw [hleft]
  cases tail with
  | nil =>
    refine ⟨[], ?_, rfl⟩
    obtain ⟨x, e, rfl⟩ : ∃ x e, core = x ++ [e] :=
      ⟨core.dropLast, core.getLast hne, (List.dropLast_append_getLast hne).symm⟩
    have he : isBlank e = false := hlast rfl e (by simp)
    rw [List.append_nil, Text.reverse_dropWhile_append_cons he]
    simpa using hfilter
  | cons d t =>
    have hd : isBlank d = false := htail d rfl
    have hkept := isDropped_of_not_isBlank hd
    rw [Text.reverse_dropWhile_append_cons hd, List.filter_append, hfilter]
    exact ⟨_, rfl, by simp [hkept]⟩

/-! ## Schemes -/

section
variable {scheme : List Char} (hscheme : ∀ c ∈ scheme, isSchemeChar c = true)

include hscheme

/-- A scheme ends at its colon. -/
theorem span_isSchemeChar (rest : List Char) :
    (scheme ++ ':' :: rest).takeWhile isSchemeChar = scheme ∧
      (scheme ++ ':' :: rest).dropWhile isSchemeChar = ':' :: rest := by
  have hcolon : ¬ isSchemeChar ':' = true := by decide
  rw [List.takeWhile_append_of_pos hscheme, List.dropWhile_append_of_pos hscheme,
    List.takeWhile_cons_of_neg hcolon, List.dropWhile_cons_of_neg hcolon, List.append_nil]
  exact ⟨rfl, rfl⟩

/-- What is stripped of a text stands after the colon. -/
theorem stripped_colon (hne : scheme ≠ []) (t : List Char) :
    stripped (scheme ++ ':' :: t) = scheme ++ ':' ::
      (t.reverse.dropWhile isBlank).reverse.filter fun c => !isDropped c := by
  have hblank (c : Char) (hc : c ∈ scheme) : isBlank c = false :=
    isBlank_of_isSchemeChar (hscheme c hc)
  have hleft : (scheme ++ ':' :: t).dropWhile isBlank = scheme ++ ':' :: t := by
    obtain ⟨c, more, rfl⟩ := List.exists_cons_of_ne_nil hne
    exact List.dropWhile_cons_of_neg (by rw [hblank c List.mem_cons_self]; decide)
  have hkept : scheme.filter (fun c => !isDropped c) = scheme :=
    List.filter_eq_self.mpr fun c hc => by
      rw [isDropped_of_not_isBlank (hblank c hc), Bool.not_false]
  show (((scheme ++ ':' :: t).dropWhile isBlank).reverse.dropWhile isBlank).reverse.filter
    (fun c => !isDropped c) = _
  rw [hleft, Text.reverse_dropWhile_append_cons (by decide), List.filter_append, hkept]
  rfl

theorem splitScheme?_colon (hne : scheme ≠ []) (hfirst : ∀ c ∈ scheme.head?, c.isAlpha = true)
    (rest : List Char) :
    splitScheme? (scheme ++ ':' :: rest) = some (scheme.map Char.toLower, rest) := by
  obtain ⟨htake, hdrop⟩ := span_isSchemeChar hscheme rest
  obtain ⟨c, t, hct⟩ := List.exists_cons_of_ne_nil hne
  have hc : c.isAlpha = true := hfirst c (by rw [hct]; rfl)
  unfold splitScheme?
  rw [hdrop, htake, hct]
  simp [hc]

theorem splitScheme?_append {rest s r : List Char}
    (h : splitScheme? (scheme ++ ':' :: rest) = some (s, r)) :
    s = scheme.map Char.toLower ∧ r = rest := by
  obtain ⟨htake, hdrop⟩ := span_isSchemeChar hscheme rest
  unfold splitScheme? at h
  rw [hdrop, htake] at h
  split at h
  · split at h
    · cases h
    · cases h
      exact ⟨rfl, rfl⟩
  · cases h

end

/-! ## Authorities -/

/-- What ends no authority of a special URL ends none. -/
theorem isAuthorityEnd_of_not {c : Char} (h : isAuthorityEnd true c = false) (special : Bool) :
    isAuthorityEnd special c = false := by
  simp only [isAuthorityEnd, Bool.true_and, Bool.or_eq_false_iff] at h
  simp [isAuthorityEnd, h]

theorem isAuthorityEnd_of {c : Char} (h : isAuthorityEnd false c = true) (special : Bool) :
    isAuthorityEnd special c = true := by
  simp only [isAuthorityEnd, Bool.false_and, Bool.or_false] at h
  rw [isAuthorityEnd, h, Bool.true_or]

theorem isBlank_of_isAuthorityEnd {special : Bool} {c : Char}
    (h : isAuthorityEnd special c = true) : isBlank c = false := by
  simp only [isAuthorityEnd, Bool.or_eq_true, Bool.and_eq_true, beq_iff_eq] at h
  rcases h with ((rfl | rfl) | rfl) | ⟨-, rfl⟩
  all_goals decide

/-- The host of a file ends where the authority of a special URL would. -/
theorem isFileHostEnd_eq (c : Char) :
    (isSlash c || c == '?' || c == '#') = isAuthorityEnd true c := by
  rw [Bool.eq_iff_iff]
  simp only [isSlash, isAuthorityEnd, Bool.true_and, Bool.or_eq_true, beq_iff_eq]
  tauto

theorem isSlash_of_not_isAuthorityEnd {c : Char} (h : isAuthorityEnd true c = false) :
    isSlash c = false := by
  rw [← isFileHostEnd_eq] at h
  simp only [Bool.or_eq_false_iff] at h
  exact h.1.1

theorem readHierarchy_append {scheme authority tail : List Char}
    (hauthority : ∀ c ∈ authority, isAuthorityEnd (isSpecial scheme) c = false)
    (htail : ∀ c ∈ tail.head?, isAuthorityEnd (isSpecial scheme) c = true) :
    readHierarchy scheme (authority ++ tail) = readAuthority scheme tail.isEmpty authority := by
  have hin : ∀ c ∈ authority, (!isAuthorityEnd (isSpecial scheme) c) = true := by
    intro c hc
    rw [hauthority c hc, Bool.not_false]
  unfold readHierarchy
  simp only [List.takeWhile_append_of_pos hin, List.dropWhile_append_of_pos hin]
  cases tail with
  | nil => simp
  | cons c t =>
    have hc := htail c rfl
    simp [hc]

theorem splitHost_join (inBrackets : Bool) (s : List Char) :
    (splitHost inBrackets s).1 ++ (splitHost inBrackets s).2 = s := by
  induction s generalizing inBrackets with
  | nil => rfl
  | cons c s ih =>
    rw [splitHost]
    split
    · rfl
    · exact congrArg (c :: ·) (ih _)

/-- Outside of brackets the host ends at the first colon. -/
theorem splitHost_append {host port : List Char} (hhost : ∀ c ∈ host, c ≠ ':' ∧ c ≠ '[')
    (hport : ∀ c ∈ port.head?, c = ':') : splitHost false (host ++ port) = (host, port) := by
  induction host with
  | nil =>
    cases port with
    | nil => rfl
    | cons c t =>
      obtain rfl := hport c rfl
      rfl
  | cons c host ih =>
    obtain ⟨hcolon, hopen⟩ := hhost c (List.mem_cons_self ..)
    have := ih fun d hd => hhost d (List.mem_cons_of_mem _ hd)
    simp [splitHost, hcolon, hopen, this]

theorem splitHost_within {host : List Char} (h : ']' ∉ host) (rest : List Char) :
    splitHost true (host ++ ']' :: rest) =
      (host ++ ']' :: (splitHost false rest).1, (splitHost false rest).2) := by
  induction host with
  | nil => simp [splitHost]
  | cons c host ih =>
    rw [List.mem_cons, not_or] at h
    simp [splitHost, Ne.symm h.1, ih h.2]

/-- Up to the closing bracket there may be colons. -/
theorem splitHost_brackets {host port : List Char} (hhost : ']' ∉ host)
    (hport : ∀ c ∈ port.head?, c = ':') :
    splitHost false ('[' :: host ++ ']' :: port) = ('[' :: host ++ [']'], port) := by
  have hnil : splitHost false ([] ++ port) = ([], port) := splitHost_append (by simp) hport
  have hwithin := splitHost_within hhost port
  rw [List.nil_append] at hnil
  rw [hnil] at hwithin
  simp [splitHost, hwithin]

/-- What the parts of an authority are read from. -/
theorem readAuthority_parts {scheme s : List Char} {isLast : Bool} {url : Url}
    (h : readAuthority scheme isLast s = .ok url) :
    url.scheme = scheme ∧
      (url.username, url.password) =
        readUserInfo (((Text.cutLast? '@' s).map Prod.fst).getD []) ∧
      readHost (isSpecial scheme) (splitHost false (withoutUserInfo s)).1 = .ok url.host ∧
      readPort scheme ((splitHost false (withoutUserInfo s)).2.drop 1) = .ok url.port := by
  unfold readAuthority at h
  unfold withoutUserInfo
  cases hc : Text.cutLast? '@' s
  all_goals
    simp only [hc] at h ⊢
    split at h
    · cases h
    · cases hhost : readHost (isSpecial scheme) (splitHost false _).1 with
      | error fault =>
        rw [hhost] at h
        cases h
      | ok host =>
        simp only [hhost, bind, Except.bind] at h
        split at h
        · cases h
        · cases hport : readPort scheme ((splitHost false _).2.drop 1) with
          | error fault =>
            rw [hport] at h
            cases h
          | ok port =>
            rw [hport] at h
            cases h
            exact ⟨rfl, rfl, rfl, rfl⟩

/-- The host of an authority is what is read of its host text. -/
theorem readAuthority_ok {scheme s : List Char} {isLast : Bool} {url : Url}
    (h : readAuthority scheme isLast s = .ok url) :
    url.scheme = scheme ∧
      readHost (isSpecial scheme) (splitHost false (withoutUserInfo s)).1 = .ok url.host :=
  ⟨(readAuthority_parts h).1, (readAuthority_parts h).2.2.1⟩

/-- Only an empty host is none. -/
theorem readHost_ok {special : Bool} {s : List Char} {host : Option Host} (hne : s ≠ [])
    (h : readHost special s = .ok host) :
    ∃ a, host = some a ∧ (if special then Host.parse s else Host.parseOpaque s) = .ok a := by
  have hmap : (if special then Host.parse s else Host.parseOpaque s).map some = .ok host := by
    unfold readHost at h
    rw [if_neg (by simpa using hne)] at h
    cases special with
    | true => exact h
    | false => exact h
  cases hparse : if special then Host.parse s else Host.parseOpaque s with
  | error fault =>
    rw [hparse] at hmap
    cases hmap
  | ok a =>
    rw [hparse] at hmap
    cases hmap
    exact ⟨a, rfl, rfl⟩

theorem readFileHost_ok {s rest : List Char} {host : Host}
    (hs : ∀ c ∈ s, isAuthorityEnd true c = false)
    (hrest : ∀ c ∈ rest.head?, isAuthorityEnd false c = true)
    (h : readFileHost (s ++ rest) = .ok (some host)) : Host.parse s = .ok host := by
  have hin : ∀ c ∈ s, (!isAuthorityEnd true c) = true := by
    intro c hc
    rw [hs c hc, Bool.not_false]
  have htext : (s ++ rest).takeWhile (fun c => !isAuthorityEnd true c) = s := by
    rw [List.takeWhile_append_of_pos hin]
    cases rest with
    | nil => simp
    | cons c t =>
      have hc := isAuthorityEnd_of (hrest c rfl) true
      rw [List.takeWhile_cons_of_neg (by simp [hc]), List.append_nil]
  unfold readFileHost at h
  simp only [isFileHostEnd_eq, htext] at h
  split at h
  · cases h
  · cases hparse : Host.parse s with
    | error fault =>
      rw [hparse] at h
      cases h
    | ok a =>
      simp only [hparse, bind, Except.bind] at h
      split at h
      · cases h
      · split at h
        · simp only [pure, Except.pure, Except.ok.injEq] at h
          split at h
          · cases h
          · cases h
            rfl
        · cases h
          rfl

theorem readFile_host {scheme s rest : List Char} {url : Url} {host : Host}
    (hs : ∀ c ∈ s, isAuthorityEnd true c = false)
    (hrest : ∀ c ∈ rest.head?, isAuthorityEnd false c = true)
    (h : readFile scheme ('/' :: '/' :: (s ++ rest)) = .ok url) (hu : url.host = some host) :
    Host.parse s = .ok host := by
  have hslash : (isSlash '/' && isSlash '/') = true := by decide
  unfold readFile at h
  simp only [hslash, if_true] at h
  cases hread : readFileHost (s ++ rest) with
  | error fault =>
    rw [hread] at h
    cases h
  | ok a =>
    rw [hread] at h
    cases h
    obtain rfl : a = some host := hu
    exact readFileHost_ok hs hrest hread

/-- The slashes before an authority end where it begins. -/
theorem dropWhile_slashes {slashes s : List Char} (hslashes : ∀ c ∈ slashes, isSlash c = true)
    (hs : ∀ c ∈ s, isAuthorityEnd true c = false) (hne : s ≠ []) (rest : List Char) :
    (slashes ++ (s ++ rest)).dropWhile isSlash = s ++ rest := by
  obtain ⟨c, t, rfl⟩ := List.exists_cons_of_ne_nil hne
  have hc := isSlash_of_not_isAuthorityEnd (hs c (List.mem_cons_self ..))
  rw [List.dropWhile_append_of_pos hslashes]
  exact List.dropWhile_cons_of_neg (by simp [hc])

/-! ## The scheme of a URL -/

/-- A file has the scheme and no port. -/
theorem readFile_ok {scheme s : List Char} {url : Url} (h : readFile scheme s = .ok url) :
    url.scheme = scheme ∧ url.port = none := by
  unfold readFile at h
  split at h
  · next a b rest =>
    split at h
    · cases hread : readFileHost rest with
      | error fault =>
        rw [hread] at h
        cases h
      | ok host =>
        rw [hread] at h
        cases h
        exact ⟨rfl, rfl⟩
    · cases h
      exact ⟨rfl, rfl⟩
  · cases h
    exact ⟨rfl, rfl⟩

theorem parse_scheme {s : List Char} {url : Url} (h : parse s = .ok url) :
    ∃ rest, splitScheme? (stripped s) = some (url.scheme, rest) := by
  unfold parse at h
  cases hsplit : splitScheme? (stripped s) with
  | none =>
    rw [hsplit] at h
    cases h
  | some r =>
    obtain ⟨scheme, rest⟩ := r
    simp only [hsplit] at h
    have hscheme : url.scheme = scheme := by
      split at h
      · exact (readFile_ok h).1
      · split at h
        · exact (readAuthority_ok h).1
        · split at h
          · exact (readAuthority_ok h).1
          · cases h
            rfl
    exact ⟨rest, by rw [hscheme]⟩

/-- A scheme begins with a letter. -/
theorem parse_scheme_ne {s : List Char} {url : Url} (h : parse s = .ok url) : url.scheme ≠ [] := by
  obtain ⟨rest, hsplit⟩ := parse_scheme h
  unfold splitScheme? at hsplit
  split at hsplit
  · next c t hs =>
    split at hsplit
    · cases hsplit
    · next hc =>
      have hchar : isSchemeChar c = true := by
        simp only [Bool.not_eq_true, Bool.not_eq_false'] at hc
        simp [isSchemeChar, Char.isAlphanum, hc]
      split at hsplit
      · rw [hs, List.takeWhile_cons_of_pos hchar] at hsplit
        intro hnil
        rw [hnil] at hsplit
        cases hsplit
      · cases hsplit
  · cases hsplit

/-! ## Texts put together -/

/-- Blanks are stripped; what follows the scheme is changed after `body` only, and not at the first
character there. -/
theorem stripped_scheme {blanks scheme body tail : List Char}
    (hblanks : ∀ c ∈ blanks, isBlank c = true) (hscheme : ∀ c ∈ scheme, isSchemeChar c = true)
    (hbody : ∀ c ∈ body, isDropped c = false) (htail : ∀ c ∈ tail.head?, isBlank c = false)
    (hlast : tail = [] → ∀ c ∈ body.getLast?, isBlank c = false) :
    ∃ rest, stripped (blanks ++ (scheme ++ ':' :: (body ++ tail))) =
      scheme ++ ':' :: (body ++ rest) ∧ rest.head? = tail.head? := by
  have hfirst : ∀ c ∈ (scheme ++ ':' :: body).head?, isBlank c = false := by
    intro c hc
    cases scheme with
    | nil =>
      cases hc
      decide
    | cons d t =>
      cases hc
      exact isBlank_of_isSchemeChar (hscheme c (List.mem_cons_self ..))
  have hcore : ∀ c ∈ scheme ++ ':' :: body, isDropped c = false := by
    intro c hc
    rcases List.mem_append.mp hc with hc | hc
    · exact isDropped_of_not_isBlank (isBlank_of_isSchemeChar (hscheme c hc))
    · rcases List.mem_cons.mp hc with rfl | hc
      · decide
      · exact hbody c hc
  have hlast' : tail = [] → ∀ c ∈ (scheme ++ ':' :: body).getLast?, isBlank c = false := by
    intro ht c hc
    cases body with
    | nil =>
      rw [List.getLast?_concat] at hc
      cases hc
      decide
    | cons d t =>
      refine hlast ht c ?_
      rw [List.getLast?_append, List.getLast?_cons_cons] at hc
      rwa [List.getLast?_eq_some_getLast (List.cons_ne_nil _ _)] at hc ⊢
  obtain ⟨rest, hrest, hhead⟩ :=
    stripped_append hblanks hfirst hcore (by simp) htail hlast'
  refine ⟨rest, ?_, hhead⟩
  simpa using hrest

/-- Without slashes after the scheme there is no host, unless the scheme always has one. -/
theorem parse_host_none {blanks scheme path : List Char} {url : Url}
    (hblanks : ∀ c ∈ blanks, isBlank c = true) (hscheme : ∀ c ∈ scheme, isSchemeChar c = true)
    (hpath : ∀ c ∈ path.head?, c ≠ '/' ∧ isBlank c = false)
    (h : parse (blanks ++ (scheme ++ ':' :: path)) = .ok url)
    (hspecial : isSpecial url.scheme = false) (hfile : url.scheme ≠ "file".toList) :
    url.host = none := by
  have hbody : ∀ c ∈ ([] : List Char), isDropped c = false := by simp
  obtain ⟨rest, hstripped, hhead⟩ : ∃ rest, stripped (blanks ++ (scheme ++ ':' :: path)) =
      scheme ++ ':' :: rest ∧ rest.head? = path.head? :=
    stripped_scheme hblanks hscheme hbody (fun c hc => (hpath c hc).2) (by simp)
  obtain ⟨after, hsplit⟩ := parse_scheme h
  rw [hstripped] at hsplit
  obtain ⟨-, rfl⟩ := splitScheme?_append hscheme hsplit
  unfold parse at h
  simp only [hstripped, hsplit] at h
  rw [if_neg hfile, hspecial, if_neg (by decide)] at h
  split at h
  · exact absurd rfl (hpath '/' (by rw [← hhead]; rfl)).1
  · rw [← Except.ok.inj h]

/-- Only the tail is changed, and not at its first character. -/
theorem stripped_hierarchy {blanks scheme authority tail : List Char}
    (hblanks : ∀ c ∈ blanks, isBlank c = true) (hscheme : ∀ c ∈ scheme, isSchemeChar c = true)
    (hauthority : ∀ c ∈ authority, isDropped c = false) (hne : authority ≠ [])
    (htail : ∀ c ∈ tail.head?, isBlank c = false)
    (hlast : tail = [] → ∀ c ∈ authority.getLast?, isBlank c = false) :
    ∃ rest, stripped (blanks ++ (scheme ++ ':' :: ('/' :: '/' :: authority ++ tail))) =
      scheme ++ ':' :: ('/' :: '/' :: authority ++ rest) ∧ rest.head? = tail.head? := by
  have hbody : ∀ c ∈ '/' :: '/' :: authority, isDropped c = false := by
    intro c hc
    simp only [List.mem_cons] at hc
    rcases hc with rfl | rfl | hc
    · decide
    · decide
    · exact hauthority c hc
  refine stripped_scheme hblanks hscheme hbody htail fun ht c hc => hlast ht c ?_
  obtain ⟨d, t, rfl⟩ := List.exists_cons_of_ne_nil hne
  rwa [List.getLast?_cons_cons, List.getLast?_cons_cons] at hc

section

variable {blanks scheme authority tail : List Char}
  (hblanks : ∀ c ∈ blanks, isBlank c = true) (hscheme : ∀ c ∈ scheme, isSchemeChar c = true)
  (hauthority : ∀ c ∈ authority, isAuthorityEnd true c = false ∧ isDropped c = false)
  (hne : authority ≠ []) (htail : ∀ c ∈ tail.head?, isAuthorityEnd false c = true)
  (hlast : tail = [] → ∀ c ∈ authority.getLast?, isBlank c = false)

include hblanks hscheme hauthority hne htail hlast

/-- A text of blanks, a scheme, two slashes, an authority and a tail is read part by part. -/
theorem parse_hierarchy {url : Url}
    (h : parse (blanks ++ (scheme ++ ':' :: ('/' :: '/' :: authority ++ tail))) = .ok url) :
    (url.scheme ≠ "file".toList → readHost (isSpecial url.scheme)
      (splitHost false (withoutUserInfo authority)).1 = .ok url.host) ∧
    (url.scheme = "file".toList → ∀ host, url.host = some host →
      Host.parse authority = .ok host) := by
  obtain ⟨rest, hstripped, hhead⟩ :=
    stripped_hierarchy hblanks hscheme (fun c hc => (hauthority c hc).2) hne
      (fun c hc => isBlank_of_isAuthorityEnd (htail c hc)) hlast
  have hrest : ∀ c ∈ rest.head?, isAuthorityEnd false c = true := by
    rw [hhead]
    exact htail
  have hends : ∀ c ∈ authority, isAuthorityEnd true c = false := fun c hc => (hauthority c hc).1
  obtain ⟨after, hsplit⟩ := parse_scheme h
  rw [hstripped] at hsplit
  obtain ⟨-, rfl⟩ := splitScheme?_append hscheme hsplit
  unfold parse at h
  rw [hstripped, hsplit] at h
  simp only [List.cons_append] at h
  by_cases hfile : url.scheme = "file".toList
  · rw [if_pos hfile] at h
    exact ⟨fun hs => absurd hfile hs, fun _ host hu => readFile_host hends hrest h hu⟩
  · rw [if_neg hfile] at h
    have hread : readAuthority url.scheme rest.isEmpty authority = .ok url := by
      rw [← readHierarchy_append (fun c hc => isAuthorityEnd_of_not (hends c hc) _) fun c hc =>
        isAuthorityEnd_of (hrest c hc) _]
      split at h
      · have hslashes : ∀ c ∈ ['/', '/'], isSlash c = true := by simp [isSlash]
        have hdrop := dropWhile_slashes hslashes hends hne rest
        rw [List.cons_append, List.cons_append, List.nil_append] at hdrop
        rwa [hdrop] at h
      · exact h
    exact ⟨fun _ => (readAuthority_ok hread).2, fun hf => absurd hf hfile⟩

end

end ProxyRouting.Url
