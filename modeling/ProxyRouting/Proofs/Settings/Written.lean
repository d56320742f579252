import ProxyRouting.Proofs.Json.Number
import ProxyRouting.Proofs.Json.Text
import ProxyRouting.Proofs.Json.Tree
import ProxyRouting.Settings.Printer

/-!
# Written values are read back

`Reads read written a` says that a reader takes the value off the front of a text that starts with
what is written, whatever may follow a value there.  Each writer has such a lemma with its reader:
scalars first, then lists and objects, whose parts need no more than that they are read back
themselves.

    (∀ a ∈ items, Reads read (write a) a) → Reads (readList read) (writeList write items) items
    Fills fields start members d → Reads (readRecord name fields start) (writeObject members) d
-/

namespace ProxyRouting

open Json

/-! ## Reading in front of a rest -/

/-- What may stand after a value: nothing, or the mark that ends it. -/
def EndsValue (rest : List Char) : Prop :=
  ∀ c ∈ rest.head?, c = ',' ∨ c = ']' ∨ c = '\x7d'

/-- The reader takes a value off the front, if the text starts with what is written. -/
def Reads {α : Type} (read : Reader α) (written : List Char) (a : α) : Prop :=
  ∀ rest, EndsValue rest → read (written ++ rest) = .ok (a, rest)

/-- The first character of a value other than `null`. -/
def OpensValue (written : List Char) : Prop :=
  ∃ c more, written = c :: more ∧ isBlank c = false ∧ c ≠ ']' ∧ c ≠ 'n'

theorem endsValue_cons {c : Char} (h : c = ',' ∨ c = ']' ∨ c = '\x7d') (rest : List Char) :
    EndsValue (c :: rest) := by
  rintro d ⟨⟩
  exact h

theorem EndsValue.endsNumber {rest : List Char} (h : EndsValue rest) : EndsNumber rest := by
  intro c hc
  rcases h c hc with rfl | rfl | rfl <;> decide

/-! ## Scalars -/

theorem reads_bool (b : Bool) : Reads readBool (writeBool b) b := by
  intro rest _
  cases b <;> rfl

theorem quoted_append (s : String) (rest : List Char) :
    quoted s ++ rest = '"' :: (s.toList.flatMap quotedChar ++ '"' :: rest) := by
  simp [quoted]

theorem reads_string (s : String) : Reads readString (quoted s) s := by
  intro rest _
  rw [readString, quoted_append, dropBlanks_cons (by decide)]
  exact readText_quoted s rest

theorem opens_quoted (s : String) : OpensValue (quoted s) :=
  ⟨'"', _, rfl, by decide⟩

theorem writePort_spec (port : UInt16) : ∃ d ds, writePort port = d :: ds ∧ d.isDigit = true := by
  cases hds : writePort port with
  | nil => exact absurd hds Nat.toDigits_ne_nil
  | cons d ds =>
    have hd : d ∈ writePort port := by
      rw [hds]
      exact List.mem_cons_self
    exact ⟨d, ds, rfl, Nat.isDigit_of_mem_toDigits (by decide) (by decide) hd⟩

theorem opens_port (port : UInt16) : OpensValue (writePort port) := by
  obtain ⟨d, ds, hds, hd⟩ := writePort_spec port
  refine ⟨d, ds, hds, isBlank_of_isDigit hd, ?_, ?_⟩ <;> (rintro rfl; exact absurd hd (by decide))

/-- A port starts with a digit, and then it is the number that is read. -/
theorem readPort_of_isDigit {d : Char} {s rest : List Char} {n : Number} {port : UInt16}
    (hd : d.isDigit = true) (hnumber : readNumber false (d :: s) = .ok (n, rest))
    (hport : n.toPort = .ok port) : readPort (d :: s) = .ok (port, rest) := by
  have hminus : d ≠ '-' := by
    rintro rfl
    exact absurd hd (by decide)
  rw [readPort, dropBlanks_cons (isBlank_of_isDigit hd)]
  simp only [hd, hnumber, hport, if_true, bind, Except.bind, pure, Except.pure]

theorem toPort_toNat (port : UInt16) : (Number.integer port.toNat).toPort = .ok port := by
  have hlt : port.toNat < 65536 := port.toNat_lt_size
  simp [Number.toPort, hlt]

theorem reads_port (port : UInt16) : Reads readPort (writePort port) port := by
  intro rest hrest
  obtain ⟨d, ds, hds, hd⟩ := writePort_spec port
  have hle : port.toNat ≤ maxSignificand := by
    have : port.toNat < 65536 := port.toNat_lt_size
    unfold maxSignificand
    omega
  have hnumber : readNumber false (writePort port ++ rest) = .ok (.integer port.toNat, rest) :=
    readNumber_toDigits hle hrest.endsNumber
  rw [hds] at hnumber ⊢
  exact readPort_of_isDigit hd hnumber (toPort_toNat port)

/-! ## Options -/

section
variable {α : Type} {read : Reader α}

theorem reads_option {write : α → List Char} (a? : Option α)
    (h : ∀ a ∈ a?, Reads read (write a) a ∧ OpensValue (write a)) :
    Reads (readOption read) (writeOption write a?) a? := by
  intro rest hrest
  cases a? with
  | none => rfl
  | some a =>
    obtain ⟨hread, c, more, hc, hblank, -, hnull⟩ := h a rfl
    have hrest' := hread rest hrest
    rw [hc, List.cons_append] at hrest'
    rw [writeOption, readOption, hc, List.cons_append, dropBlanks_cons hblank]
    split
    · next heq => exact absurd (List.cons.inj heq).1 hnull
    · rw [hrest']
      rfl

/-! ## Lists -/

theorem separated_cons (item : List Char) (items : List (List Char)) :
    separated (item :: items) = item ++ items.flatMap (',' :: ·) := by
  induction items generalizing item with
  | nil => simp [separated]
  | cons next items ih => simp only [separated, ih next, List.flatMap_cons, List.cons_append]

theorem endsValue_more (items : List (List Char)) {c : Char} (hc : c = ']' ∨ c = '\x7d')
    (rest : List Char) : EndsValue (items.flatMap (',' :: ·) ++ c :: rest) := by
  cases items with
  | nil => exact endsValue_cons (.inr hc) rest
  | cons item items => exact endsValue_cons (.inl rfl) _

theorem length_le_more (items : List (List Char)) :
    items.length ≤ (items.flatMap (',' :: ·)).length := by
  induction items with
  | nil => exact Nat.le_refl 0
  | cons item items ih =>
    rw [List.flatMap_cons, List.length_append, List.length_cons, List.length_cons]
    omega

theorem nextItem_first {written : List Char} (h : OpensValue written) (rest : List Char) :
    nextItem true (written ++ rest) = .ok (some (written ++ rest)) := by
  obtain ⟨c, more, rfl, hblank, hend, -⟩ := h
  rw [nextItem, List.cons_append, dropBlanks_cons hblank]
  simp

theorem nextItem_more {written : List Char} (h : OpensValue written) (rest : List Char) :
    nextItem false (',' :: (written ++ rest)) = .ok (some (written ++ rest)) := by
  obtain ⟨c, more, rfl, hblank, hend, -⟩ := h
  rw [nextItem, dropBlanks_cons (by decide)]
  simp [dropBlanks_cons hblank, hend]

/-- The end of a list. -/
theorem readItems_end (k : Char) (clock : List Char) (done : List α) (rest : List Char) :
    readItems read (k :: clock) done (']' :: rest) = .ok (done.reverse, rest) := by
  have hend : dropBlanks (']' :: rest) = ']' :: rest := dropBlanks_cons (by decide) rest
  simp [readItems, nextItem, readListEnd, hend, bind, Except.bind, pure, Except.pure]

theorem readItems_step {done : List α} {s t rest : List Char} {a : α} (k : Char)
    (clock : List Char) (hnext : nextItem done.isEmpty s = .ok (some t))
    (hread : read t = .ok (a, rest)) :
    readItems read (k :: clock) done s = readItems read clock (a :: done) rest := by
  rw [readItems, hnext]
  simp only [hread]

/-- The items after the first, each with its comma. -/
theorem readItems_more {write : α → List Char} (items : List α)
    (h : ∀ a ∈ items, Reads read (write a) a ∧ OpensValue (write a)) :
    ∀ (clock : List Char) (done : List α) (rest : List Char), done ≠ [] →
      items.length < clock.length →
        readItems read clock done ((items.map write).flatMap (',' :: ·) ++ ']' :: rest) =
          .ok (done.reverse ++ items, rest) := by
  induction items with
  | nil =>
    intro clock done rest _ hclock
    cases clock with
    | nil => cases hclock
    | cons k clock =>
      rw [List.append_nil]
      exact readItems_end k clock done rest
  | cons a items ih =>
    intro clock done rest hdone hclock
    obtain ⟨⟨hread, hopens⟩, hitems⟩ := List.forall_mem_cons.mp h
    cases clock with
    | nil => cases hclock
    | cons k clock =>
      have hends := endsValue_more (items.map write) (.inl rfl) rest
      have hfirst : done.isEmpty = false := by simpa using hdone
      rw [List.map_cons, List.flatMap_cons, List.append_assoc, List.cons_append,
        readItems_step k clock (hfirst ▸ nextItem_more hopens _) (hread _ hends),
        ih hitems clock (a :: done) rest (List.cons_ne_nil _ _) (Nat.lt_of_succ_lt_succ hclock)]
      simp

theorem readItems_separated {write : α → List Char} (items : List α)
    (h : ∀ a ∈ items, Reads read (write a) a ∧ OpensValue (write a)) (clock rest : List Char)
    (hclock : items.length < clock.length) :
    readItems read clock [] (separated (items.map write) ++ ']' :: rest) = .ok (items, rest) := by
  cases clock with
  | nil => cases hclock
  | cons k clock =>
    cases items with
    | nil => exact readItems_end k clock [] rest
    | cons a items =>
      obtain ⟨⟨hread, hopens⟩, hitems⟩ := List.forall_mem_cons.mp h
      have hends := endsValue_more (items.map write) (.inl rfl) rest
      have hfirst : ([] : List α).isEmpty = true := rfl
      rw [List.map_cons, separated_cons, List.append_assoc,
        readItems_step k clock (hfirst ▸ nextItem_first hopens _) (hread _ hends),
        readItems_more items hitems clock [a] rest (List.cons_ne_nil _ _)
          (Nat.lt_of_succ_lt_succ hclock)]
      rfl

theorem OpensValue.ne_nil {written : List Char} (h : OpensValue written) : written ≠ [] := by
  obtain ⟨c, more, rfl, -⟩ := h
  exact List.cons_ne_nil c more

theorem length_le_separated {items : List (List Char)} (h : ∀ item ∈ items, item ≠ []) :
    items.length ≤ (separated items).length := by
  cases items with
  | nil => exact Nat.zero_le _
  | cons item items =>
    have hmore := length_le_more items
    have hitem := List.length_pos_iff.mpr (h item List.mem_cons_self)
    rw [separated_cons, List.length_append, List.length_cons]
    omega

theorem reads_list {write : α → List Char} (items : List α)
    (h : ∀ a ∈ items, Reads read (write a) a ∧ OpensValue (write a)) :
    Reads (readList read) (writeList write items) items := by
  intro rest _
  have hlength : items.length ≤ (separated (items.map write)).length := by
    have := length_le_separated
      (List.forall_mem_map.mpr fun a ha => (h a ha).2.ne_nil : ∀ item ∈ items.map write, item ≠ [])
    rwa [List.length_map] at this
  rw [writeList, List.cons_append, List.cons_append, List.append_assoc, readList,
    dropBlanks_cons (by decide)]
  refine readItems_separated items h _ rest ?_
  rw [List.length_append, List.length_append, List.length_singleton]
  omega

end

/-! ## Objects -/

/-- A name and its value as members of an object. -/
def writeMember (m : String × List Char) : List Char :=
  quoted m.1 ++ ':' :: m.2

section
variable {σ : Type} {fields : List (RecordField σ)}

/-- From one state to the next by the value that is written for a name. -/
def Takes (fields : List (RecordField σ)) (m : String × List Char) (state next : σ) : Prop :=
  ∀ rest, EndsValue rest → readMember fields m.1 state (':' :: (m.2 ++ rest)) = .ok (next, rest)

/-- From one state to another by members in their order. -/
inductive Fills (fields : List (RecordField σ)) : σ → List (String × List Char) → σ → Prop
  | nil {state : σ} : Fills fields state [] state
  | cons {state next last : σ} {m : String × List Char} {members : List (String × List Char)} :
    Takes fields m state next → Fills fields next members last →
      Fills fields state (m :: members) last

/-- A field that has not been read takes a value that is read back. -/
theorem takes_of {α : Type} {name : String} {otherNames : List String} {read : Reader α}
    {value? : σ → Option α} {set : σ → α → σ} {state : σ} {written : List Char} {a : α}
    (hfind : fields.find? (·.hasName name) = some (.of name otherNames read value? set))
    (hunread : value? state = none) (hread : Reads read written a) :
    Takes fields (name, written) state (set state a) := by
  intro rest hrest
  have hcolon : readColon (':' :: (written ++ rest)) = .ok (written ++ rest) := by
    rw [readColon, dropBlanks_cons (by decide)]
    rfl
  simp only [readMember, hfind, RecordField.of, hunread, hcolon, hread rest hrest, bind,
    Except.bind, pure, Except.pure]
  rfl

theorem nextName_first (m : String × List Char) (rest : List Char) :
    nextName true (writeMember m ++ rest) = .ok (some m.1, ':' :: (m.2 ++ rest)) := by
  rw [writeMember, List.append_assoc, quoted_append, nextName, dropBlanks_cons (by decide)]
  simp [readText_quoted, bind, Except.bind, pure, Except.pure]

theorem nextName_more (m : String × List Char) (rest : List Char) :
    nextName false (',' :: (writeMember m ++ rest)) = .ok (some m.1, ':' :: (m.2 ++ rest)) := by
  have hquote (s : List Char) : dropBlanks ('"' :: s) = '"' :: s := dropBlanks_cons (by decide) s
  rw [writeMember, List.append_assoc, quoted_append, nextName, dropBlanks_cons (by decide)]
  simp [hquote, readText_quoted, bind, Except.bind, pure, Except.pure]

theorem readMembers_end (k : Char) (clock : List Char) (isFirst : Bool) (state : σ)
    (rest : List Char) :
    readMembers fields (k :: clock) isFirst state ('\x7d' :: rest) = .ok (state, rest) := by
  have hend : nextName isFirst ('\x7d' :: rest) = .ok (none, rest) := by
    rw [nextName, dropBlanks_cons (by decide)]
    rfl
  rw [readMembers, hend]

theorem readMembers_step {isFirst : Bool} {state next : σ} {m : String × List Char}
    {s rest : List Char} (k : Char) (clock : List Char)
    (hname : nextName isFirst s = .ok (some m.1, ':' :: (m.2 ++ rest)))
    (htakes : Takes fields m state next) (hrest : EndsValue rest) :
    readMembers fields (k :: clock) isFirst state s = readMembers fields clock false next rest := by
  rw [readMembers, hname]
  simp only [htakes rest hrest]

/-- The members after the first, each with its comma. -/
theorem readMembers_more {members : List (String × List Char)} {state last : σ}
    (h : Fills fields state members last) : ∀ clock rest : List Char,
      members.length < clock.length →
        readMembers fields clock false state
          ((members.map writeMember).flatMap (',' :: ·) ++ '\x7d' :: rest) = .ok (last, rest) := by
  induction h with
  | nil =>
    intro clock rest hclock
    cases clock with
    | nil => cases hclock
    | cons k clock => exact readMembers_end k clock false _ rest
  | @cons state next last m members htakes _ ih =>
    intro clock rest hclock
    cases clock with
    | nil => cases hclock
    | cons k clock =>
      have hends := endsValue_more (members.map writeMember) (.inr rfl) rest
      rw [List.map_cons, List.flatMap_cons, List.append_assoc, List.cons_append,
        readMembers_step k clock (nextName_more m _) htakes hends]
      exact ih clock rest (Nat.lt_of_succ_lt_succ hclock)

theorem readMembers_separated {members : List (String × List Char)} {state last : σ}
    (h : Fills fields state members last) (clock rest : List Char)
    (hclock : members.length < clock.length) :
    readMembers fields clock true state
      (separated (members.map writeMember) ++ '\x7d' :: rest) = .ok (last, rest) := by
  cases clock with
  | nil => cases hclock
  | cons k clock =>
    cases h with
    | nil => exact readMembers_end k clock true state rest
    | @cons _ next _ m members htakes hfills =>
      have hends := endsValue_more (members.map writeMember) (.inr rfl) rest
      rw [List.map_cons, separated_cons, List.append_assoc,
        readMembers_step k clock (nextName_first m _) htakes hends]
      exact readMembers_more hfills clock rest (Nat.lt_of_succ_lt_succ hclock)

theorem opens_object (members : List (String × List Char)) : OpensValue (writeObject members) :=
  ⟨'\x7b', _, rfl, by decide⟩

/-- An object is read back if each of its members is. -/
theorem reads_record (name : String) {members : List (String × List Char)} {start last : σ}
    (h : Fills fields start members last) :
    Reads (readRecord name fields start) (writeObject members) last := by
  intro rest _
  have hlength : members.length ≤ (separated (members.map writeMember)).length := by
    have hne : ∀ item ∈ members.map writeMember, item ≠ [] := by
      refine List.forall_mem_map.mpr fun m _ => List.append_ne_nil_of_right_ne_nil _ ?_
      exact List.cons_ne_nil _ _
    have := length_le_separated hne
    rwa [List.length_map] at this
  rw [writeObject, List.cons_append, List.cons_append, List.append_assoc, readRecord,
    dropBlanks_cons (by decide)]
  refine readMembers_separated h _ rest ?_
  show members.length < (separated (members.map writeMember) ++ (['\x7d'] ++ rest)).length
  rw [List.length_append, List.length_append, List.length_singleton]
  omega

end

end ProxyRouting
