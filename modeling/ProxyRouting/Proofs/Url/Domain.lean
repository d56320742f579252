import ProxyRouting.Proofs.Text.Digit
import ProxyRouting.Proofs.Unicode.Normal
import ProxyRouting.Proofs.Url.Name

/-!
# Characters of domain names

A domain name in ASCII has no character that is denied: a label is kept as it is, or its own ASCII
characters are, and what punycode puts beside them are a hyphen and its digits.

Neither mapping nor composing takes a low character away, so that a text with one that is denied has
no form in ASCII.

    toAscii s = some name → ∀ c ∈ name, c is in ASCII and not denied
    toAscii s = none                    (a denied character before 0x3C in s)
-/

namespace ProxyRouting.Idna

/-- What a domain name in ASCII is written with. -/
structure IsWritable (c : Char) : Prop where
  toNat_lt : c.toNat < 0x80
  not_denied : isDenied c = false

/-! ## Punycode -/

namespace Punycode

theorem isWritable_digitChar {d : Nat} (h : d < 36) : IsWritable (digitChar d) := by
  have hall : ∀ d < 36, (digitChar d).toNat < 0x80 ∧ isDenied (digitChar d) = false := by decide
  exact ⟨(hall d h).1, (hall d h).2⟩

theorem threshold_le (place bias : Nat) : threshold place bias ≤ 26 := by
  unfold threshold
  omega

theorem isWritable_encodeNumber (bias place n : Nat) :
    ∀ c ∈ encodeNumber bias place n, IsWritable c := by
  induction place, n using encodeNumber.induct bias with
  | case1 place n t h =>
    have hdigit : n < 36 := by
      have := threshold_le place bias
      omega
    rw [encodeNumber, if_pos h]
    simpa using isWritable_digitChar hdigit
  | case2 place n t h ih =>
    have hdigit : t + (n - t) % (36 - t) < 36 := by
      have := threshold_le place bias
      have := Nat.mod_lt (n - t) (show 0 < 36 - t by omega)
      omega
    rw [encodeNumber, if_neg h]
    simpa using ⟨isWritable_digitChar hdigit, ih⟩

/-- One character of the label adds digits or none. -/
theorem isWritable_step {e : Encoder} (h : ∀ c ∈ e.digits, IsWritable c) (basic code n : Nat) :
    ∀ c ∈ (Encoder.step basic code e n).digits, IsWritable c := by
  unfold Encoder.step
  split
  · exact h
  · split
    · intro c hc
      rcases List.mem_append.mp hc with hc | hc
      · exact h c hc
      · exact isWritable_encodeNumber _ _ _ c hc
    · exact h

theorem isWritable_encodeCodes (basic : Nat) (label : List Nat) (codes : List Nat) :
    ∀ (next : Nat) {e : Encoder}, (∀ c ∈ e.digits, IsWritable c) →
      ∀ c ∈ (encodeCodes basic label codes next e).digits, IsWritable c := by
  have hfold (code : Nat) (ns : List Nat) : ∀ {e : Encoder}, (∀ c ∈ e.digits, IsWritable c) →
      ∀ c ∈ (ns.foldl (Encoder.step basic code) e).digits, IsWritable c := by
    induction ns with
    | nil => exact id
    | cons n ns ih => exact fun h => ih (isWritable_step h basic code n)
  induction codes with
  | nil => exact fun _ _ h => h
  | cons code codes ih =>
    intro next e h
    rw [encodeCodes]
    exact ih (code + 1) (hfold code label h)

theorem isWritable_encode {label : List Char} (h : ∀ c ∈ label, isDenied c = false) :
    ∀ c ∈ encode label, IsWritable c := by
  have hascii : ∀ c ∈ label.filter (fun c => c.toNat < 0x80), IsWritable c := by
    intro c hc
    obtain ⟨hmem, hlt⟩ := List.mem_filter.mp hc
    exact ⟨of_decide_eq_true hlt, h c hmem⟩
  intro c hc
  rcases List.mem_append.mp hc with hc | hc
  · split at hc
    · cases hc
    · rcases List.mem_append.mp hc with hc | hc
      · exact hascii c hc
      · rw [List.mem_singleton.mp hc]
        exact ⟨by decide, by decide⟩
  · exact isWritable_encodeCodes _ _ _ _ (by simp) c hc

end Punycode

/-! ## Labels -/

theorem isWritable_of_isAscii {s : List Char} (hascii : isAscii s = true)
    (h : ∀ c ∈ s, isDenied c = false) : ∀ c ∈ s, IsWritable c := fun c hc =>
  ⟨of_decide_eq_true (List.all_eq_true.mp hascii c hc), h c hc⟩

theorem isWritable_written {label : List Char} {l : Label} (hof : Label.of? label = some l)
    (h : ∀ c ∈ label, isDenied c = false) : ∀ c ∈ l.written, IsWritable c := by
  unfold Label.of? at hof
  split at hof
  · split at hof
    · cases hof
    · next hlimits =>
      obtain ⟨meaning, -, hof⟩ := Option.bind_eq_some_iff.mp hof
      split at hof
      · cases hof
        rw [Bool.or_eq_true, not_or] at hlimits
        exact isWritable_of_isAscii (by simpa using hlimits.1) h
      · cases hof
  · split at hof
    · next hascii =>
      cases hof
      exact isWritable_of_isAscii hascii h
    · split at hof
      · cases hof
        intro c hc
        rcases List.mem_append.mp hc with hc | hc
        · have hmark : ∀ c ∈ punycodeMark, c.toNat < 0x80 ∧ isDenied c = false :=
            Text.forall_mem (by decide)
          exact ⟨(hmark c hc).1, (hmark c hc).2⟩
        · exact Punycode.isWritable_encode h c hc
      · cases hof

/-! ## Names -/

/-- **No character of a domain name in ASCII is denied.** -/
theorem isWritable_toAscii {s name : List Char} (h : toAscii s = some name) :
    ∀ c ∈ name, IsWritable c := by
  obtain ⟨labels, hlabels, h⟩ := Option.bind_eq_some_iff.mp h
  cases h
  obtain ⟨m, -, hm⟩ := Option.bind_eq_some_iff.mp hlabels
  split at hm
  · cases hm
  · next hdenied =>
    obtain ⟨all, hall, hm⟩ := Option.bind_eq_some_iff.mp hm
    obtain rfl : all = labels := by
      dsimp only at hm
      split at hm
      · exact Option.some.inj hm
      · cases hm
    intro c hc
    rcases Text.mem_of_mem_intercalate hc with rfl | ⟨piece, hpiece, hc⟩
    · exact ⟨by decide, by decide⟩
    · obtain ⟨l, hl, rfl⟩ := List.mem_map.mp hpiece
      obtain ⟨label, hlabel, hof⟩ := Url.exists_of_mapM_eq_some hall hl
      refine isWritable_written hof (fun c hc => ?_) c hc
      rw [Text.splitAt_eq_splitOn] at hlabel
      rw [Bool.not_eq_true, List.any_eq_false] at hdenied
      exact Bool.not_eq_true _ ▸ hdenied c (Text.mem_of_mem_splitOn hlabel hc)

/-! ## Characters that stay -/

section
variable {c : Char} {s : List Char}

theorem mem_mapped (hlow : c.toNat < 0x3C) (hc : c ∈ s) {m : List Char} (h : mapped s = some m) :
    c ∈ m := by
  obtain ⟨codes, hcodes, h⟩ := Option.bind_eq_some_iff.mp h
  obtain ⟨parts, hparts, hflat⟩ := Option.bind_eq_some_iff.mp hcodes
  cases h
  cases hflat
  have hkept : mapCode c.toNat = some [c.toNat] := by
    have hcapital : (0x41 ≤ c.toNat && c.toNat ≤ 0x5A) = false := by
      rw [Bool.and_eq_false_iff]
      exact .inl (decide_eq_false (by omega))
    rw [mapCode, if_pos (by omega), hcapital]
    rfl
  have hpart : [c.toNat] ∈ parts := Url.mem_of_mapM_eq_some hparts hc hkept
  have hmem : c.toNat ∈ parts.flatten :=
    List.mem_flatten.mpr ⟨_, hpart, List.mem_singleton.mpr rfl⟩
  rw [← Char.ofNat_toNat c]
  exact List.mem_map_of_mem (Unicode.mem_normalize hlow hmem)

/-- **A low character that is denied is in no domain name.** -/
theorem toAscii_eq_none (hlow : c.toNat < 0x3C) (hdenied : isDenied c = true) (hc : c ∈ s) :
    toAscii s = none := by
  have hlabels : labels? s = none := by
    unfold labels?
    cases hm : mapped s with
    | none => rfl
    | some m =>
      have hany : m.any isDenied = true := List.any_eq_true.mpr ⟨c, mem_mapped hlow hc hm, hdenied⟩
      show (if m.any isDenied then none else _) = none
      rw [if_pos hany]
  rw [toAscii, hlabels]
  rfl

end

end ProxyRouting.Idna
