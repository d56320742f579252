import ProxyRouting.Proofs.Url.Authority
import ProxyRouting.Proofs.Url.Host
import ProxyRouting.ProxyVariable.Reader

/-!
# Whether a port is written

Digits for a port stand after the last colon or, where brackets open, after them and a colon
(`WritesPort`).  After a host that can be read they are found where they stand, and only where the
reader of URLs takes something for digits.  Of a port that is the default of its scheme this decides
whether there is one.

    writesPort s = true ↔ WritesPort s
    port? url s = some port ↔ port is that of the URL, and not zero, and its own or WritesPort s
-/

namespace ProxyRouting.ProxyVariable

open Text (cut? cutLast?)
open Url (splitHost readHost)

/-- A host and digits for its port. -/
inductive WritesPort : List Char → Prop
  | plain {host digits : List Char} (hopen : host.head? ≠ some '[') (hne : digits ≠ [])
    (hdigits : ∀ c ∈ digits, c.isDigit = true) : WritesPort (host ++ ':' :: digits)
  | bracketed {address digits : List Char} (hclose : ']' ∉ address) (hne : digits ≠ [])
    (hdigits : ∀ c ∈ digits, c.isDigit = true) :
    WritesPort ('[' :: address ++ ']' :: ':' :: digits)

/-! ## Digits after a host -/

theorem isDigits_iff (port : List Char) :
    (!port.isEmpty && port.all Char.isDigit) = true ↔
      port ≠ [] ∧ ∀ c ∈ port, c.isDigit = true := by
  simp

/-- After brackets the digits follow a colon. -/
theorem writesPort_bracketed_iff {inner : List Char} (h : ']' ∉ inner) (rest : List Char) :
    writesPort ('[' :: inner ++ ']' :: rest) = true ↔
      ∃ port, rest = ':' :: port ∧ port ≠ [] ∧ ∀ c ∈ port, c.isDigit = true := by
  have hinner : ']' ∉ '[' :: inner := by simpa using h
  have hcut := Text.cut?_append hinner rest
  rw [List.cons_append] at hcut ⊢
  unfold writesPort
  simp only [hcut, Option.bind_some]
  constructor
  · intro hwrites
    split at hwrites
    · next port hport =>
      split at hport
      · cases hport
        exact ⟨_, rfl, (isDigits_iff _).mp hwrites⟩
      · cases hport
    · cases hwrites
  · rintro ⟨port, rfl, hport⟩
    exact (isDigits_iff port).mpr hport

/-- Elsewhere they follow the last colon. -/
theorem writesPort_iff {s : List Char} (h : s.head? ≠ some '[') :
    writesPort s = true ↔
      ∃ before port, s = before ++ ':' :: port ∧ port ≠ [] ∧ ∀ c ∈ port, c.isDigit = true := by
  have hplain : writesPort s = true ↔
      ∃ r, cutLast? ':' s = some r ∧ r.2 ≠ [] ∧ ∀ c ∈ r.2, c.isDigit = true := by
    unfold writesPort
    split
    · exact absurd rfl h
    · cases cutLast? ':' s with
      | none => simp
      | some r => simp
  rw [hplain]
  constructor
  · rintro ⟨r, hcut, hport⟩
    exact ⟨r.1, r.2, (Text.cutLast?_eq_some_iff.mp hcut).1, hport⟩
  · rintro ⟨before, port, rfl, hport⟩
    have hcolon : ':' ∉ port := fun hc => absurd (hport.2 _ hc) (by decide)
    exact ⟨_, Text.cutLast?_append hcolon before, hport⟩

theorem writesPort_eq_true_iff (s : List Char) : writesPort s = true ↔ WritesPort s := by
  constructor
  · intro hwrites
    by_cases hopen : s.head? = some '['
    · obtain ⟨t, rfl⟩ := List.head?_eq_some_iff.mp hopen
      cases hcut : cut? ']' t with
      | none =>
        have hnone : cut? ']' ('[' :: t) = none := by
          rw [Text.cut?_eq_none_iff] at hcut ⊢
          simpa using hcut
        unfold writesPort at hwrites
        simp [hnone] at hwrites
      | some r =>
        obtain ⟨address, rest⟩ := r
        obtain ⟨rfl, hclose⟩ := Text.cut?_eq_some_iff.mp hcut
        obtain ⟨digits, rfl, hne, hdigits⟩ := (writesPort_bracketed_iff hclose rest).mp hwrites
        exact .bracketed hclose hne hdigits
    · obtain ⟨host, digits, rfl, hne, hdigits⟩ := (writesPort_iff hopen).mp hwrites
      refine .plain (fun hhost => hopen ?_) hne hdigits
      rw [List.head?_append, hhost]
      rfl
  · intro h
    cases h with
    | @plain host digits hopen hne hdigits =>
      have hhead : (host ++ ':' :: digits).head? ≠ some '[' := by
        cases host with
        | nil => simp
        | cons c host => exact hopen
      exact (writesPort_iff hhead).mpr ⟨host, digits, rfl, hne, hdigits⟩
    | bracketed hclose hne hdigits =>
      exact (writesPort_bracketed_iff hclose _).mpr ⟨_, rfl, hne, hdigits⟩

theorem readHost_bracketed {special : Bool} {s : List Char} {host : Option Url.Host}
    (h : readHost special ('[' :: s) = .ok host) : ∃ inner, s = inner ++ [']'] ∧ ']' ∉ inner := by
  obtain ⟨a, -, ha⟩ := Url.readHost_ok (List.cons_ne_nil _ _) h
  have hbracketed : Url.Host.parseBracketed s = .ok a := by
    cases special with
    | true => exact ha
    | false => exact ha
  exact Url.Host.exists_of_parseBracketed hbracketed

/-- Digits after a host are seen to be written. -/
theorem writesPort_of_host {special : Bool} {hostText digits : List Char} {host : Option Url.Host}
    (hhost : readHost special hostText = .ok host) (hne : digits ≠ [])
    (hdigits : ∀ c ∈ digits, c.isDigit = true) : writesPort (hostText ++ ':' :: digits) = true := by
  by_cases hfirst : hostText.head? = some '['
  · obtain ⟨s, rfl⟩ := List.head?_eq_some_iff.mp hfirst
    obtain ⟨inner, rfl, hinner⟩ := readHost_bracketed hhost
    have htext : '[' :: (inner ++ [']']) ++ ':' :: digits =
        '[' :: inner ++ ']' :: (':' :: digits) := by simp
    rw [htext, writesPort_bracketed_iff hinner]
    exact ⟨digits, rfl, hne, hdigits⟩
  · have hhead : (hostText ++ ':' :: digits).head? ≠ some '[' := by
      cases hostText with
      | nil => simp
      | cons c t => exact hfirst
    exact (writesPort_iff hhead).mpr ⟨hostText, digits, rfl, hne, hdigits⟩

/-- Digits that are seen are read. -/
theorem splitHost_of_writesPort {special : Bool} {hostPort : List Char} {host : Option Url.Host}
    (hhost : readHost special (splitHost false hostPort).1 = .ok host)
    (hwrites : writesPort hostPort = true) : (splitHost false hostPort).2.drop 1 ≠ [] := by
  by_cases hfirst : hostPort.head? = some '['
  · obtain ⟨s, rfl⟩ := List.head?_eq_some_iff.mp hfirst
    have hstep : splitHost false ('[' :: s) =
        ('[' :: (splitHost true s).1, (splitHost true s).2) := rfl
    rw [hstep] at hhost ⊢
    obtain ⟨inner, hinner, hclose⟩ := readHost_bracketed hhost
    have hjoin : '[' :: s = '[' :: inner ++ ']' :: (splitHost true s).2 := by
      have hs := Url.splitHost_join true s
      rw [hinner] at hs
      simpa using hs.symm
    rw [hjoin, writesPort_bracketed_iff hclose] at hwrites
    obtain ⟨port, hport, hne, -⟩ := hwrites
    rw [hport]
    exact hne
  · obtain ⟨before, port, hdigits, hne, -⟩ := (writesPort_iff hfirst).mp hwrites
    have hjoin := Url.splitHost_join false hostPort
    generalize splitHost false hostPort = split at hhost hjoin ⊢
    have hopen : split.1.head? ≠ some '[' := by
      intro hopen
      rw [← hjoin, List.head?_append, hopen] at hfirst
      exact hfirst rfl
    -- the host has no colon, so the last colon stands after it, and the digits after that
    have hcolon := Url.colon_notMem_of_readHost hopen hhost
    rw [hdigits] at hjoin
    have hlength : 2 ≤ split.2.length := by
      have hport := List.length_pos_iff.mpr hne
      obtain ⟨rest, -, hafter⟩ | ⟨rest, hhostText, hafter⟩ := List.append_eq_append_iff.mp hjoin
      · rw [hafter, List.length_append, List.length_cons]
        omega
      · cases rest with
        | nil =>
          rw [List.nil_append] at hafter
          rw [← hafter, List.length_cons]
          omega
        | cons c rest =>
          obtain ⟨rfl, -⟩ := List.cons.inj hafter
          exact absurd (by simp [hhostText]) hcolon
    intro hnone
    have hshort := List.drop_eq_nil_iff.mp hnone
    omega

/-! ## The port -/

theorem splitUserInfo_snd (s : List Char) :
    (splitUserInfo s).2 = Destination.withoutUserInfo s := by
  unfold splitUserInfo Destination.withoutUserInfo
  cases cutLast? '@' s with
  | none => rfl
  | some r => rfl

/-- The port of the URL is a port if it is not zero; one that the URL has not of its own has to be
written. -/
theorem port?_eq_some_iff {url : Url} {hostPort : List Char} {port : UInt16} :
    port? url hostPort = some port ↔ url.effectivePort? = some port ∧ port ≠ 0 ∧
      (url.port = none → WritesPort hostPort) := by
  rw [← writesPort_eq_true_iff]
  unfold port? Url.effectivePort?
  cases hp : url.port with
  | some p => simp [Option.filter_eq_some_iff]
  | none => by_cases hwrites : writesPort hostPort = true <;> simp [hwrites, Option.filter_eq_some_iff]

theorem effectivePort?_of_port? {url : Url} {hostPort : List Char} {port : UInt16}
    (h : port? url hostPort = some port) : url.effectivePort? = some port :=
  (port?_eq_some_iff.mp h).1

/-- The default of the scheme is a port only where digits are seen. -/
theorem port?_eq {url : Url} {port : UInt16}
    (hport : url.port = if Url.defaultPort? url.scheme = some port then none else some port)
    (hostPort : List Char) : port? url hostPort =
      if port ≠ 0 ∧ (Url.defaultPort? url.scheme = some port → writesPort hostPort = true)
      then some port else none := by
  unfold port? Url.effectivePort?
  by_cases hdefault : Url.defaultPort? url.scheme = some port
  · rw [hport, if_pos hdefault, hdefault]
    by_cases hwrites : writesPort hostPort = true
    · by_cases hzero : port = 0 <;> simp [hwrites, hzero, Option.filter]
    · simp [hwrites]
  · rw [hport, if_neg hdefault]
    by_cases hzero : port = 0 <;> simp [hdefault, hzero, Option.filter]

end ProxyRouting.ProxyVariable
