import ProxyRouting.Proofs.Destination.Authority

/-!
# URIs with an authority, as they are written

A URI put together from its parts gives back its host, in the letters that were written, whatever
user information, port and tail there are.

    text = before ++ "://" ++ [info ++ "@"] ++ host ++ [":" ++ port] ++ tail
    hostAsWritten? text = some host                                   (hostAsWritten?_text)
-/

namespace ProxyRouting.Destination

open Text (cutAt? cutLast? between?)

structure Written where
  /-- What stands before the mark: a scheme, and any blanks ahead of it. -/
  before : List Char
  info : Option (List Char)
  /-- The host without its brackets. -/
  host : List Char
  inBrackets : Bool
  port : Option (List Char)
  tail : List Char
  before_plain : ':' ∉ before
  info_plain : ∀ u ∈ info, ∀ c ∈ u, isDelimiter c = false
  host_ne : host ≠ []
  host_plain : ∀ c ∈ host, isDelimiter c = false ∧ c ≠ '@'
  host_bare : inBrackets = false → ':' ∉ host ∧ between? '[' ']' host = none
  port_digits : ∀ p ∈ port, ∀ c ∈ p, c.isDigit = true
  tail_delimited : ∀ c ∈ tail.head?, isDelimiter c = true

namespace Written

def infoText (w : Written) : List Char :=
  match w.info with
  | some u => u ++ ['@']
  | none => []

def hostText (w : Written) : List Char :=
  if w.inBrackets then '[' :: w.host ++ [']'] else w.host

def portText (w : Written) : List Char :=
  match w.port with
  | some p => ':' :: p
  | none => []

def authority (w : Written) : List Char :=
  w.infoText ++ (w.hostText ++ w.portText)

def text (w : Written) : List Char :=
  w.before ++ (authorityMark ++ (w.authority ++ w.tail))

/-! ## Lemmas -/

variable (w : Written)

theorem hostText_ne : w.hostText ≠ [] := by
  unfold hostText
  split
  · exact List.cons_ne_nil _ _
  · exact w.host_ne

theorem hostText_plain : ∀ c ∈ w.hostText, isDelimiter c = false ∧ c ≠ '@' := by
  unfold hostText
  split
  · intro c hc
    rw [List.cons_append, List.mem_cons, List.mem_append, List.mem_singleton] at hc
    rcases hc with rfl | hc | rfl
    · decide
    · exact w.host_plain c hc
    · decide
  · exact w.host_plain

theorem portText_plain : ∀ c ∈ w.portText, isDelimiter c = false ∧ c ≠ '@' ∧ c ≠ ']' := by
  unfold portText
  split
  · next p hp =>
    intro c hc
    rcases List.mem_cons.mp hc with rfl | hc
    · decide
    · have hd := w.port_digits p hp c hc
      refine ⟨?_, ?_, ?_⟩
      · cases hdel : isDelimiter c with
        | false => rfl
        | true =>
          simp only [isDelimiter, Bool.or_eq_true, beq_iff_eq] at hdel
          rcases hdel with (rfl | rfl) | rfl
          all_goals exact absurd hd (by decide)
      · rintro rfl
        exact absurd hd (by decide)
      · rintro rfl
        exact absurd hd (by decide)
  · intro c hc
    cases hc

theorem authority_plain : ∀ c ∈ w.authority, isDelimiter c = false := by
  intro c hc
  rw [authority, List.mem_append, List.mem_append] at hc
  rcases hc with hc | hc | hc
  · unfold infoText at hc
    split at hc
    · next u hu =>
      rcases List.mem_append.mp hc with hc | hc
      · exact w.info_plain u hu c hc
      · obtain rfl := List.mem_singleton.mp hc
        decide
    · cases hc
  · exact (w.hostText_plain c hc).1
  · exact (w.portText_plain c hc).1

theorem upToDelimiter_authority : upToDelimiter (w.authority ++ w.tail) = w.authority := by
  rw [upToDelimiter_append w.authority_plain]
  cases ht : w.tail with
  | nil => exact List.append_nil _
  | cons c t =>
    have := w.tail_delimited c (by rw [ht]; rfl)
    simp [upToDelimiter, this]

theorem at_not_mem_hostPort : '@' ∉ w.hostText ++ w.portText := by
  rw [List.mem_append, not_or]
  exact ⟨fun h => (w.hostText_plain _ h).2 rfl, fun h => (w.portText_plain _ h).2.1 rfl⟩

theorem withoutUserInfo_authority : withoutUserInfo w.authority = w.hostText ++ w.portText := by
  unfold withoutUserInfo authority infoText
  cases w.info with
  | none =>
    rw [List.nil_append, Text.cutLast?_eq_none_iff.mpr w.at_not_mem_hostPort]
  | some u =>
    simp only [List.append_assoc, List.singleton_append]
    rw [Text.cutLast?_append w.at_not_mem_hostPort]

/-- The last colon outside of brackets is the one before the port. -/
theorem withoutPort_hostPort : withoutPort (w.hostText ++ w.portText) = w.hostText := by
  unfold withoutPort
  cases hp : w.port with
  | some p =>
    have hport : w.portText = ':' :: p := by rw [portText, hp]
    have hlast : ((w.hostText ++ w.portText).getLast? == some ']') = false := by
      have hne : w.portText ≠ [] := by rw [hport]; exact List.cons_ne_nil _ _
      have hmem := w.portText_plain _ (List.getLast_mem hne)
      rw [List.getLast?_append, List.getLast?_eq_some_getLast hne]
      simpa using hmem.2.2
    have hcolon : ':' ∉ p := fun h => absurd (w.port_digits p hp _ h) (by decide)
    rw [hlast, hport, Text.cutLast?_append hcolon]
    rfl
  | none =>
    have hport : w.portText = [] := by rw [portText, hp]
    rw [hport, List.append_nil]
    cases hb : w.inBrackets with
    | true =>
      have hhost : w.hostText = ('[' :: w.host) ++ [']'] := by simp [hostText, hb]
      rw [hhost, List.getLast?_concat]
      rfl
    | false =>
      have hhost : w.hostText = w.host := by simp [hostText, hb]
      rw [hhost, Text.cutLast?_eq_none_iff.mpr (w.host_bare hb).1, ite_self]

theorem withoutBrackets_hostText : withoutBrackets w.hostText = w.host := by
  unfold withoutBrackets hostText
  cases hb : w.inBrackets with
  | true =>
    simp [between?]
  | false =>
    rw [if_neg (by decide), (w.host_bare hb).2]
    rfl

theorem cutAt?_text : cutAt? authorityMark w.text = some (w.before, w.authority ++ w.tail) := by
  rw [text, cutAt?_mark_append w.before_plain, Text.cutAt?_of_append rfl]
  simp

/-! ## Top theorem -/

/-- **The host comes back as it was written.** -/
theorem hostAsWritten?_text : hostAsWritten? w.text = some w.host := by
  have hne : w.host.isEmpty = false := by
    cases h : w.host with
    | nil => exact absurd h w.host_ne
    | cons c t => rfl
  unfold hostAsWritten?
  rw [w.cutAt?_text]
  show nonEmpty (writtenHost (upToDelimiter (w.authority ++ w.tail))) = _
  rw [w.upToDelimiter_authority, writtenHost, w.withoutUserInfo_authority, w.withoutPort_hostPort,
    w.withoutBrackets_hostText, nonEmpty, hne]
  rfl

end Written

end ProxyRouting.Destination
