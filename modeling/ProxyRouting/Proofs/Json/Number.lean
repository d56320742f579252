import Mathlib.Data.Nat.Digits.Defs
import ProxyRouting.Json.Number

/-!
# Written numbers are read back

The decimal digits of a natural number are read as that number, if it fits 64 bits and nothing
follows that would go on with it (`EndsNumber`).

    readNumber false (Nat.toDigits 10 n ++ rest) = ok (.integer n, rest)
-/

namespace ProxyRouting.Json

/-! ## Digits -/

theorem digit?_of_isDigit {c : Char} (h : c.isDigit = true) :
    digit? c = some (c.toNat - '0'.toNat) := by
  have hle := Char.isDigit_iff_toNat.mp h
  have hlt : c.toNat - '0'.toNat < 10 := by
    have : '9'.toNat = '0'.toNat + 9 := by decide
    omega
  rw [digit?, Text.digitValue?, Text.hexValue?, if_pos h]
  exact Option.filter_some_pos (by simpa using hlt)

theorem toNat_le_of_between {first last c : Char} (h : (first ≤ c && c ≤ last) = true) :
    first.toNat ≤ c.toNat := by
  rw [Bool.and_eq_true, decide_eq_true_eq] at h
  exact h.1

/-- The letters that are hexadecimal digits are no decimal ones. -/
theorem digit?_of_not_isDigit {c : Char} (h : c.isDigit = false) : digit? c = none := by
  have ha : 'a'.toNat = 87 + 10 := by decide
  have hA : 'A'.toNat = 55 + 10 := by decide
  rw [digit?, Text.digitValue?, Text.hexValue?, if_neg (by simp [h]), Option.filter_eq_none_iff]
  intro d hd
  rw [decide_eq_true_eq]
  split at hd
  · next hlower =>
    have := toNat_le_of_between hlower
    cases hd
    omega
  · split at hd
    · next hupper =>
      have := toNat_le_of_between hupper
      cases hd
      omega
    · cases hd

/-- A number is at least as large as what its first digits say. -/
theorem le_ofDigitChars (ds : List Char) : ∀ n, n ≤ Nat.ofDigitChars 10 ds n := by
  induction ds with
  | nil => intro n; exact Nat.le_refl n
  | cons d ds ih =>
    intro n
    have := ih (10 * n + (d.toNat - '0'.toNat))
    show n ≤ Nat.ofDigitChars 10 ds (10 * n + (d.toNat - '0'.toNat))
    omega

theorem takeDigits_append (ds rest : List Char) (hrest : isDigitNext rest = false) :
    ∀ significand taken, (∀ c ∈ ds, c.isDigit = true) →
      Nat.ofDigitChars 10 ds significand ≤ maxSignificand →
        takeDigits significand taken (ds ++ rest) =
          (Nat.ofDigitChars 10 ds significand, taken + ds.length, rest) := by
  induction ds with
  | nil =>
    intro significand taken _ _
    cases rest with
    | nil => rfl
    | cons c rest =>
      rw [List.nil_append, takeDigits, digit?_of_not_isDigit hrest]
      rfl
  | cons d ds ih =>
    intro significand taken hall hmax
    obtain ⟨hd, hds⟩ := List.forall_mem_cons.mp hall
    have hstep : Nat.ofDigitChars 10 (d :: ds) significand =
        Nat.ofDigitChars 10 ds (significand * 10 + (d.toNat - '0'.toNat)) := by
      rw [Nat.mul_comm]
      rfl
    rw [hstep] at hmax ⊢
    have hfits : ¬ maxSignificand < significand * 10 + (d.toNat - '0'.toNat) := by
      have := le_ofDigitChars ds (significand * 10 + (d.toNat - '0'.toNat))
      omega
    rw [List.cons_append, takeDigits, digit?_of_isDigit hd]
    simp only [hfits, if_false]
    rw [ih _ _ hds hmax, List.length_cons, Nat.add_assoc, Nat.add_comm 1]

/-- No number but zero is written with a zero in front. -/
theorem head?_toDigits_ne {n : Nat} (h : n ≠ 0) : (Nat.toDigits 10 n).head? ≠ some '0' := by
  induction n using Nat.strongRecOn with
  | _ n ih =>
    rw [Nat.toDigits_eq_if (by decide)]
    split
    · next hlt =>
      have : ∀ m < 10, m ≠ 0 → [Nat.digitChar m].head? ≠ some '0' := by decide
      exact this n hlt h
    · next hge =>
      have hquotient := ih (n / 10) (by omega) (by omega)
      rw [List.head?_append]
      cases hds : Nat.toDigits 10 (n / 10) with
      | nil => exact absurd hds Nat.toDigits_ne_nil
      | cons d ds => rwa [hds] at hquotient

/-! ## Whole numbers -/

/-- Nothing goes on with a number here. -/
def EndsNumber (rest : List Char) : Prop :=
  ∀ c ∈ rest.head?, c.isDigit = false ∧ c ≠ '.' ∧ c ≠ 'e' ∧ c ≠ 'E'

theorem EndsNumber.isDigitNext {rest : List Char} (h : EndsNumber rest) :
    isDigitNext rest = false := by
  cases rest with
  | nil => rfl
  | cons c rest => exact (h c rfl).1

theorem readNumber_zero {rest : List Char} (hrest : EndsNumber rest) :
    readNumber false ('0' :: rest) = .ok (.integer 0, rest) := by
  have hnext := hrest.isDigitNext
  cases rest with
  | nil => rfl
  | cons c rest =>
    obtain ⟨-, hdot, he, hE⟩ := hrest c rfl
    simp [readNumber, hnext, hdot, he, hE, whole]

/-- Digits without a zero in front. -/
theorem readNumber_digits {d : Char} {ds rest : List Char} (hzero : d ≠ '0')
    (hdigits : ∀ c ∈ d :: ds, c.isDigit = true)
    (hmax : Nat.ofDigitChars 10 (d :: ds) 0 ≤ maxSignificand) (hrest : EndsNumber rest) :
    readNumber false (d :: ds ++ rest) =
      .ok (.integer (Nat.ofDigitChars 10 (d :: ds) 0), rest) := by
  obtain ⟨hd, hds⟩ := List.forall_mem_cons.mp hdigits
  have hdigit := digit?_of_isDigit hd
  have hnext := hrest.isDigitNext
  have hvalue : Nat.ofDigitChars 10 (d :: ds) 0 =
      Nat.ofDigitChars 10 ds (10 * 0 + (d.toNat - '0'.toNat)) := rfl
  rw [Nat.mul_zero, Nat.zero_add] at hvalue
  rw [hvalue] at hmax ⊢
  generalize d.toNat - '0'.toNat = v at hdigit hmax ⊢
  have htake := takeDigits_append ds rest hnext v 0 hds hmax
  cases rest with
  | nil =>
    rw [List.append_nil] at htake ⊢
    simp [readNumber, hdigit, htake, hnext, whole]
  | cons c rest =>
    obtain ⟨-, hdot, he, hE⟩ := hrest c rfl
    simp [readNumber, hdigit, htake, hnext, hdot, he, hE, whole]

theorem readNumber_toDigits {n : Nat} (hn : n ≤ maxSignificand) {rest : List Char}
    (hrest : EndsNumber rest) :
    readNumber false (Nat.toDigits 10 n ++ rest) = .ok (.integer n, rest) := by
  by_cases hzero : n = 0
  · subst hzero
    exact readNumber_zero hrest
  · have hvalue : Nat.ofDigitChars 10 (Nat.toDigits 10 n) 0 = n := Nat.ofDigitChars_ten_toDigits
    have hdigits : ∀ c ∈ Nat.toDigits 10 n, c.isDigit = true := fun c hc =>
      Nat.isDigit_of_mem_toDigits (by decide) (by decide) hc
    have hhead := head?_toDigits_ne hzero
    cases hds : Nat.toDigits 10 n with
    | nil => exact absurd hds Nat.toDigits_ne_nil
    | cons d ds =>
      rw [hds] at hvalue hdigits hhead
      have hd : d ≠ '0' := fun h => hhead (congrArg some h)
      have hread := readNumber_digits hd hdigits (by rwa [hvalue]) hrest
      rwa [hvalue] at hread

end ProxyRouting.Json
