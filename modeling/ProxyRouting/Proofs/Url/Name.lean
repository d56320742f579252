import ProxyRouting.Proofs.HostPattern.Glob
import ProxyRouting.Proofs.Url.Percent
import ProxyRouting.Url.Basic

/-!
# Names that stay as they are

A name of small letters, digits and hyphens between dots is its own form in ASCII, unless one of its
labels is to be read as punycode; and it is no address if its last label starts with a letter.  So
it is kept as it is, whether hosts are domain names or not.

    Idna.toAscii s = some s                                              (IsPlainText s)
    readHost special s = .ok (some (.name s))                            (IsPlainName s)
-/

namespace ProxyRouting.Url

/-- A dotted text of small letters, digits and hyphens, with nothing in it to be read as punycode. -/
structure IsPlainText (s : List Char) : Prop where
  chars : ∀ c ∈ s, c.isLower = true ∨ c.isDigit = true ∨ c = '-' ∨ c = '.'
  labels : ∀ label ∈ s.splitOn '.', ¬ "xn--".toList <+: label

/-- A dotted name of small letters, digits and hyphens. -/
structure IsPlainName (s : List Char) : Prop where
  chars : ∀ c ∈ s, c.isLower = true ∨ c.isDigit = true ∨ c = '-' ∨ c = '.'
  labels : ∀ label ∈ s.splitOn '.', ¬ "xn--".toList <+: label
  last : ∃ c rest, (s.splitOn '.').getLast? = some (c :: rest) ∧ c.isLower = true

/-! ## Optional values of a list -/

section
variable {α β : Type} {f : α → Option β} {l : List α}

theorem mapM_eq_some_iff : ∀ {l' : List β}, l.mapM f = some l' ↔ l.map f = l'.map some := by
  induction l with
  | nil => simp
  | cons a l ih =>
    intro l'
    have hstep : (a :: l).mapM f = some l' ↔
        ∃ b, f a = some b ∧ ∃ rest, l.mapM f = some rest ∧ b :: rest = l' := by
      rw [List.mapM_cons]
      simp [Option.bind_eq_some_iff]
    rw [hstep, List.map_cons]
    constructor
    · rintro ⟨b, hb, rest, hrest, rfl⟩
      rw [List.map_cons, hb, ih.mp hrest]
    · intro h
      obtain ⟨b, rest, rfl, hb, hrest⟩ := List.map_eq_cons_iff.mp h.symm
      exact ⟨b, hb.symm, rest, ih.mpr hrest.symm, rfl⟩

theorem mapM_eq_some {g : α → β} (h : ∀ a ∈ l, f a = some (g a)) : l.mapM f = some (l.map g) := by
  rw [mapM_eq_some_iff, List.map_map]
  exact List.map_congr_left h

theorem exists_of_mapM_eq_some {l' : List β} (h : l.mapM f = some l') {b : β} (hb : b ∈ l') :
    ∃ a ∈ l, f a = some b := by
  refine List.mem_map.mp ?_
  rw [mapM_eq_some_iff.mp h]
  exact List.mem_map_of_mem hb

theorem mem_of_mapM_eq_some {l' : List β} (h : l.mapM f = some l') {a : α} {b : β} (ha : a ∈ l)
    (hb : f a = some b) : b ∈ l' := by
  have hmem : f a ∈ l.map f := List.mem_map_of_mem ha
  rw [mapM_eq_some_iff.mp h, hb] at hmem
  obtain ⟨_, hmem, ⟨⟩⟩ := List.mem_map.mp hmem
  exact hmem

end

/-! ## Characters -/

namespace IsPlainText

variable {s : List Char} (h : IsPlainText s)

include h

theorem toNat_lt {c : Char} (hc : c ∈ s) : c.toNat < 0x80 := by
  have hlower (hc : c.isLower = true) : c.toNat ≤ 122 :=
    of_decide_eq_true (Bool.and_eq_true_iff.mp hc).2
  have hdigit (hc : c.isDigit = true) : c.toNat ≤ 57 := (Char.isDigit_iff_toNat.mp hc).2
  rcases h.chars c hc with hc | hc | rfl | rfl
  · have := hlower hc
    omega
  · have := hdigit hc
    omega
  all_goals decide

/-- No capital, and nothing that is denied, forbidden or encoded. -/
theorem char_plain {c : Char} (hc : c ∈ s) :
    (0x41 ≤ c.toNat && c.toNat ≤ 0x5A) = false ∧ Idna.isDenied c = false ∧
      Host.isForbidden c = false ∧ Percent.isControl c = false := by
  let P (c : Char) : Prop := c.isLower = true ∨ c.isDigit = true ∨ c = '-' ∨ c = '.' →
    (0x41 ≤ c.toNat && c.toNat ≤ 0x5A) = false ∧ Idna.isDenied c = false ∧
      Host.isForbidden c = false ∧ Percent.isControl c = false
  have hall : P c := Text.forall_ascii (P := P) (by decide +kernel) (h.toNat_lt hc)
  exact hall (h.chars c hc)

theorem isForbidden_eq {c : Char} (hc : c ∈ s) : Host.isForbidden c = false :=
  (h.char_plain hc).2.2.1

/-! ## The form in ASCII -/

theorem mapAll_eq : Idna.mapAll s = some (s.map Char.toNat) := by
  have hcode : ∀ c ∈ s, Idna.mapCode c.toNat = some [c.toNat] := by
    intro c hc
    rw [Idna.mapCode, if_pos (h.toNat_lt hc)]
    simp only [(h.char_plain hc).1, Bool.false_eq_true, if_false]
  unfold Idna.mapAll
  rw [mapM_eq_some hcode]
  show some (List.flatten (s.map fun c => [c.toNat])) = _
  rw [← List.flatMap_def, ← List.map_eq_flatMap]

theorem mapped_eq : Idna.mapped s = some s := by
  have hnormal : Unicode.normalize (s.map Char.toNat) = s.map Char.toNat := by
    have hlow : (s.map Char.toNat).all (· < 0x300) = true := by
      rw [List.all_eq_true]
      intro n hn
      obtain ⟨c, hc, rfl⟩ := List.mem_map.mp hn
      have := h.toNat_lt hc
      simp
      omega
    rw [Unicode.normalize, if_pos hlow]
  have hsame : s.map (Char.ofNat ∘ Char.toNat) = s := by
    conv => rhs; rw [← List.map_id s]
    exact List.map_congr_left fun c _ => Char.ofNat_toNat c
  unfold Idna.mapped
  rw [h.mapAll_eq]
  show some ((Unicode.normalize (s.map Char.toNat)).map Char.ofNat) = _
  rw [hnormal, List.map_map, hsame]

theorem label_of? {label : List Char} (hlabel : label ∈ s.splitOn '.') :
    Idna.Label.of? label = some ⟨label, label⟩ := by
  have hascii : Idna.isAscii label = true :=
    List.all_eq_true.mpr fun c hc => decide_eq_true (h.toNat_lt (Text.mem_of_mem_splitOn hlabel hc))
  have hmark : Idna.punycodeMark.isPrefixOf? label = none := by
    cases hprefix : Idna.punycodeMark.isPrefixOf? label with
    | none => rfl
    | some digits =>
      have := List.isPrefixOf?_eq_some_iff_append_eq.mp hprefix
      exact absurd ⟨digits, this⟩ (h.labels label hlabel)
  unfold Idna.Label.of?
  rw [hmark]
  simp only [hascii, if_true]

theorem labels?_eq : Idna.labels? s = some ((s.splitOn '.').map fun label => ⟨label, label⟩) := by
  have hdenied : s.any Idna.isDenied = false := by
    rw [List.any_eq_false]
    intro c hc
    rw [(h.char_plain hc).2.1, Bool.not_eq_true]
  have hdirection : ((s.splitOn '.').map fun label => (⟨label, label⟩ : Idna.Label)).any
      (fun l => l.meaning.any Idna.isRightToLeft) = false := by
    rw [List.any_map, List.any_eq_false]
    intro label hlabel
    rw [Function.comp_apply, Bool.not_eq_true, List.any_eq_false]
    intro c hc
    have := h.toNat_lt (Text.mem_of_mem_splitOn hlabel hc)
    rw [Idna.isRightToLeft, decide_eq_false (by omega), Bool.false_and]
    decide
  unfold Idna.labels?
  rw [h.mapped_eq]
  show (if s.any Idna.isDenied then none else _) = _
  rw [hdenied, if_neg (by decide), Text.splitAt_eq_splitOn,
    mapM_eq_some fun label hlabel => h.label_of? hlabel]
  show (if _ then _ else _) = _
  rw [hdirection]
  rfl

theorem toAscii_eq : Idna.toAscii s = some s := by
  unfold Idna.toAscii
  rw [h.labels?_eq]
  show some (['.'].intercalate (((s.splitOn '.').map fun label => (⟨label, label⟩ : Idna.Label)).map
    Idna.Label.written)) = _
  rw [List.map_map]
  have hwritten : (s.splitOn '.').map (Idna.Label.written ∘ fun label => ⟨label, label⟩) =
      s.splitOn '.' := List.map_id _
  rw [hwritten, List.intercalate_splitOn]

end IsPlainText

/-! ## The host -/

namespace IsPlainName

variable {s : List Char} (h : IsPlainName s)

include h

theorem isPlainText : IsPlainText s :=
  ⟨h.chars, h.labels⟩

/-- The last label is no number. -/
theorem endsInNumber_eq : Ipv4.endsInNumber s = false := by
  obtain ⟨c, rest, hlast, hc⟩ := h.last
  have hparts : (Ipv4.parts s).getLast? = some (c :: rest) := by
    have hne : (some (c :: rest) == some []) = false := by simp
    simp only [Ipv4.parts, Text.splitAt_eq_splitOn, hlast, hne, Bool.false_eq_true, if_false]
  have hletter : c.isDigit = false ∧ c ≠ '0' ∧ Text.digitValue? 10 c = none := by
    have hlt : c.toNat < 0x80 := by
      have : c.toNat ≤ 122 := of_decide_eq_true (Bool.and_eq_true_iff.mp hc).2
      omega
    let P (c : Char) : Prop := c.isLower = true →
      c.isDigit = false ∧ c ≠ '0' ∧ Text.digitValue? 10 c = none
    have hall : P c := Text.forall_ascii (P := P) (by decide +kernel) hlt
    exact hall hc
  have hnumber : Ipv4.part? (c :: rest) = none := by
    unfold Ipv4.part?
    split
    · next h => cases h
    · next h =>
      cases h
      exact absurd rfl hletter.2.1
    · next h =>
      cases h
      exact absurd rfl hletter.2.1
    · next h =>
      cases h
      exact absurd rfl hletter.2.1
    · simp [Text.number?, hletter.2.2]
  unfold Ipv4.endsInNumber
  rw [hparts]
  simp [hletter.1, hnumber]

theorem ne_nil : s ≠ [] := by
  rintro rfl
  obtain ⟨c, rest, hlast, -⟩ := h.last
  cases hlast

theorem head_ne (rest : List Char) : s ≠ '[' :: rest := by
  rintro rfl
  exact absurd (h.isPlainText.isForbidden_eq List.mem_cons_self) (by decide)

theorem parse_eq : Host.parse s = .ok (.name s) := by
  have hpercent : '%' ∉ s := fun hc => absurd (h.isPlainText.char_plain hc).2.1 (by decide +kernel)
  have hdomain : Host.parseDomain s = .ok (.name s) := by
    unfold Host.parseDomain
    rw [Percent.decode?_eq_self hpercent, Option.bind_some, h.isPlainText.toAscii_eq]
    obtain ⟨c, t, hct⟩ := List.exists_cons_of_ne_nil h.ne_nil
    have hnumber := h.endsInNumber_eq
    rw [hct] at hnumber ⊢
    simp only [hnumber, Bool.false_eq_true, if_false]
  unfold Host.parse
  split
  · next rest => exact absurd rfl (h.head_ne rest)
  · exact hdomain

theorem parseOpaque_eq : Host.parseOpaque s = .ok (.name s) := by
  have hforbidden : s.any Host.isForbidden = false := by
    rw [List.any_eq_false]
    intro c hc
    rw [h.isPlainText.isForbidden_eq hc, Bool.not_eq_true]
  have hencode : Percent.encode Percent.isControl s = s :=
    Percent.encode_eq_self fun _ hc => (h.isPlainText.char_plain hc).2.2.2
  unfold Host.parseOpaque
  split
  · next rest => exact absurd rfl (h.head_ne rest)
  · rw [hforbidden, if_neg (by decide), hencode]

/-! ## Top theorem -/

/-- **A plain name is kept as it is.** -/
theorem readHost_eq (special : Bool) : readHost special s = .ok (some (.name s)) := by
  unfold readHost
  rw [if_neg (by simpa using h.ne_nil)]
  cases special with
  | true =>
    rw [if_pos rfl, h.parse_eq]
    rfl
  | false =>
    rw [if_neg (by decide), h.parseOpaque_eq]
    rfl

end IsPlainName

end ProxyRouting.Url
