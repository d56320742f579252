import Mathlib.Data.List.Induction
import Mathlib.Tactic.Ring
import ProxyRouting.Text.Digit

/-!
# Numbers are read back from their digits

    number? base (Nat.toDigits base n) = some n                              (1 < base ≤ 16)

What holds of each of the 128 characters of ASCII by itself holds of all of them.
-/

namespace ProxyRouting.Text

/-- What holds of the items of a list one by one. -/
theorem forall_mem {α : Type} {P : α → Prop} [DecidablePred P] {l : List α}
    (h : l.all (fun a => decide (P a)) = true) : ∀ a ∈ l, P a :=
  fun a ha => of_decide_eq_true (List.all_eq_true.mp h a ha)

theorem forall_ascii {P : Char → Prop} (h : ∀ n < 0x80, P (Char.ofNat n)) {c : Char}
    (hc : c.toNat < 0x80) : P c := by
  have := h c.toNat hc
  rwa [Char.ofNat_toNat] at this

theorem forall_digit {P : Char → Prop} (h : ∀ d < 10, P (Char.ofNat (48 + d))) {c : Char}
    (hc : c.isDigit = true) : P c := by
  obtain ⟨hlow, hhigh⟩ : 48 ≤ c.toNat ∧ c.toNat ≤ 57 := Char.isDigit_iff_toNat.mp hc
  have := h (c.toNat - 48) (by omega)
  rwa [show 48 + (c.toNat - 48) = c.toNat by omega, Char.ofNat_toNat] at this

theorem hexValue?_digitChar : ∀ d < 16, hexValue? d.digitChar = some d := by decide

section
variable {base : Nat} (hlow : 1 < base) (hhigh : base ≤ 16)

include hhigh in
theorem digitValue?_digitChar {d : Nat} (hd : d < base) : digitValue? base d.digitChar = some d := by
  rw [digitValue?, hexValue?_digitChar d (Nat.lt_of_lt_of_le hd hhigh)]
  simp [hd]

theorem number?_append_singleton {digits : List Char} {n d : Nat} {c : Char}
    (h : number? base digits = some n) (hc : digitValue? base c = some d) :
    number? base (digits ++ [c]) = some (n * base + d) := by
  unfold number? at h ⊢
  rw [List.foldlM_append, h]
  simp [hc]

theorem number?_append_singleton_iff {digits : List Char} {m : Nat} {c : Char} :
    number? base (digits ++ [c]) = some m ↔
      ∃ n d, number? base digits = some n ∧ digitValue? base c = some d ∧ m = n * base + d := by
  constructor
  · intro h
    unfold number? at h ⊢
    rw [List.foldlM_append] at h
    obtain ⟨n, hn, h⟩ := Option.bind_eq_some_iff.mp h
    rw [List.foldlM_cons] at h
    obtain ⟨m', hm, h⟩ := Option.bind_eq_some_iff.mp h
    obtain ⟨d, hd, rfl⟩ := Option.map_eq_some_iff.mp hm
    exact ⟨n, d, hn, hd, (Option.some.inj h).symm⟩
  · rintro ⟨n, d, hn, hd, rfl⟩
    exact number?_append_singleton hn hd

/-- The digits in front count as many times more as there are places after them. -/
theorem number?_append_iff {x y : List Char} {m : Nat} :
    number? base (x ++ y) = some m ↔ ∃ p q, number? base x = some p ∧ number? base y = some q ∧
      m = p * base ^ y.length + q := by
  induction y using List.reverseRecOn generalizing m with
  | nil =>
    rw [List.append_nil]
    constructor
    · intro h
      exact ⟨m, 0, h, rfl, by simp⟩
    · rintro ⟨p, q, hp, hq, rfl⟩
      cases hq
      simpa using hp
  | append_singleton y c ih =>
    rw [← List.append_assoc, number?_append_singleton_iff]
    constructor
    · rintro ⟨n, d, hn, hd, rfl⟩
      obtain ⟨p, q, hp, hq, rfl⟩ := ih.mp hn
      refine ⟨p, q * base + d, hp, number?_append_singleton hq hd, ?_⟩
      rw [List.length_append, List.length_singleton]
      ring
    · rintro ⟨p, q, hp, hq, rfl⟩
      obtain ⟨n, d, hn, hd, rfl⟩ := number?_append_singleton_iff.mp hq
      refine ⟨_, d, ih.mpr ⟨p, n, hp, hn, rfl⟩, hd, ?_⟩
      rw [List.length_append, List.length_singleton]
      ring

/-- So many digits leave the number below that power of the base. -/
theorem number?_lt {digits : List Char} {n : Nat} (h : number? base digits = some n) :
    n < base ^ digits.length := by
  induction digits using List.reverseRecOn generalizing n with
  | nil =>
    cases h
    exact Nat.one_pos
  | append_singleton digits c ih =>
    obtain ⟨m, d, hm, hd, rfl⟩ := number?_append_singleton_iff.mp h
    have hlt : d < base := of_decide_eq_true (Option.filter_eq_some_iff.mp hd).2
    have hle : (m + 1) * base ≤ base ^ digits.length * base := Nat.mul_le_mul_right _ (ih hm)
    rw [List.length_append, List.length_singleton, Nat.pow_succ]
    rw [Nat.add_one_mul] at hle
    omega

/-- A number around another that is not zero is that number only if nothing follows it, and nothing
but zeros stands before it. -/
theorem number?_around (hlow : 1 < base) {before digits after : List Char} {n : Nat} (hn : n ≠ 0)
    (hdigits : number? base digits = some n)
    (h : number? base (before ++ digits ++ after) = some n) :
    after = [] ∧ number? base before = some 0 := by
  obtain ⟨r, q, hr, hq, hall⟩ := number?_append_iff.mp h
  obtain ⟨p, n', hp, hn', rfl⟩ := number?_append_iff.mp hr
  cases hdigits.symm.trans hn'
  have hpos : 0 < base ^ digits.length := Nat.pow_pos (by omega)
  have hafter : after = [] := by
    by_contra hne
    have hlen := List.length_pos_iff.mpr hne
    have hpow : 1 < base ^ after.length := Nat.one_lt_pow (by omega) hlow
    have hmore : n < n * base ^ after.length := (Nat.lt_mul_iff_one_lt_right (by omega)).mpr hpow
    have hle : n * base ^ after.length ≤
        (p * base ^ digits.length + n) * base ^ after.length :=
      Nat.mul_le_mul_right _ (Nat.le_add_left ..)
    omega
  subst hafter
  rw [List.length_nil, Nat.pow_zero, Nat.mul_one] at hall
  have hzero : p * base ^ digits.length = 0 := by omega
  obtain rfl : p = 0 := (Nat.mul_eq_zero.mp hzero).resolve_right (by omega)
  exact ⟨rfl, hp⟩

include hlow hhigh

theorem number?_toDigits (n : Nat) : number? base (Nat.toDigits base n) = some n := by
  induction n using Nat.strongRecOn with
  | ind n ih =>
    by_cases hn : n < base
    · rw [Nat.toDigits_of_lt_base hn]
      have hone : number? base ([] ++ [n.digitChar]) = some (0 * base + n) :=
        number?_append_singleton rfl (digitValue?_digitChar hhigh hn)
      rwa [Nat.zero_mul, Nat.zero_add] at hone
    · have hlt : n / base < n := Nat.div_lt_self (by omega) hlow
      have hmod : n % base < base := Nat.mod_lt n (by omega)
      rw [Nat.toDigits_of_base_le hlow (Nat.le_of_not_lt hn),
        number?_append_singleton (ih _ hlt) (digitValue?_digitChar hhigh hmod), Nat.div_add_mod']

/-- The digits of a number are hexadecimal digits. -/
theorem hexValue?_of_mem_toDigits {n : Nat} {c : Char} (hc : c ∈ Nat.toDigits base n) :
    (hexValue? c).isSome = true := by
  induction n using Nat.strongRecOn with
  | ind n ih =>
    by_cases hn : n < base
    · rw [Nat.toDigits_of_lt_base hn, List.mem_singleton] at hc
      rw [hc, hexValue?_digitChar n (by omega)]
      rfl
    · rw [Nat.toDigits_of_base_le hlow (Nat.le_of_not_lt hn), List.mem_append,
        List.mem_singleton] at hc
      rcases hc with hc | rfl
      · exact ih _ (Nat.div_lt_self (by omega) hlow) hc
      · have hmod : n % base < base := Nat.mod_lt n (by omega)
        rw [hexValue?_digitChar _ (by omega)]
        rfl

end

theorem isDigit_of_digitValue? {c : Char} {d : Nat} (h : digitValue? 10 c = some d) :
    c.isDigit = true := by
  obtain ⟨hvalue, hlt⟩ := Option.filter_eq_some_iff.mp h
  rw [decide_eq_true_eq] at hlt
  by_contra hdigit
  rw [hexValue?, if_neg hdigit] at hvalue
  split at hvalue
  · next hletter =>
    have hle : 'a'.toNat ≤ c.toNat := (Bool.and_eq_true_iff.mp hletter).1 |> of_decide_eq_true
    cases hvalue
    change 97 ≤ _ at hle
    omega
  · split at hvalue
    · next hletter =>
      have hle : 'A'.toNat ≤ c.toNat := (Bool.and_eq_true_iff.mp hletter).1 |> of_decide_eq_true
      cases hvalue
      change 65 ≤ _ at hle
      omega
    · cases hvalue

/-- Only digits write a number. -/
theorem isDigit_of_number? {s : List Char} {n : Nat} (h : number? 10 s = some n) :
    ∀ c ∈ s, c.isDigit = true := by
  induction s using List.reverseRecOn generalizing n with
  | nil => simp
  | append_singleton s c ih =>
    obtain ⟨m, d, hm, hd, -⟩ := number?_append_singleton_iff.mp h
    intro c' hc'
    rcases List.mem_append.mp hc' with hc' | hc'
    · exact ih hm c' hc'
    · rw [List.mem_singleton.mp hc']
      exact isDigit_of_digitValue? hd

end ProxyRouting.Text
