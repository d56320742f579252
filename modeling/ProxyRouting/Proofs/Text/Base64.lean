import Mathlib.Data.List.Basic
import ProxyRouting.Text.Base64

/-!
# Base64 is read back

Each group of three bytes is four digits, and what is left over is one group with equals signs at its
end; from the digits the bytes come back.

    digitValue? (digit n) = some n                                               (n < 64)
    decode (encode bytes) = some bytes                                      (decode_encode)
-/

namespace ProxyRouting.Text.Base64

/-! ## Digits -/

theorem digitValue?_digit : ∀ n < 64, digitValue? (digit n) = some n := by
  decide +kernel

theorem digit_ne_equals : ∀ n < 64, digit n ≠ '=' := by
  decide +kernel

/-! ## Groups -/

theorem ofNat_eq {n : Nat} {a : UInt8} (h : n = a.toNat) : UInt8.ofNat n = a := by
  rw [h, UInt8.ofNat_toNat]

/-- Four digits in the order of their weights. -/
theorem fullGroup_digits (a b c : UInt8) :
    let n := a.toNat * 65536 + b.toNat * 256 + c.toNat
    fullGroup (n / 262144) (n / 4096 % 64) (n / 64 % 64) (n % 64) = [a, b, c] := by
  intro n
  have hb := b.toNat_lt
  have hc := c.toNat_lt
  have hn : ((n / 262144 * 64 + n / 4096 % 64) * 64 + n / 64 % 64) * 64 + n % 64 = n := by omega
  simp only [fullGroup, hn, List.cons.injEq, and_true]
  exact ⟨ofNat_eq (by omega), ofNat_eq (by omega), ofNat_eq (by omega)⟩

theorem lastGroup?_one (a : UInt8) :
    let n := a.toNat * 16
    lastGroup? (digit (n / 64)) (digit (n % 64)) '=' '=' = some [a] := by
  intro n
  have ha := a.toNat_lt
  have hn : n / 64 * 64 + n % 64 = n := by omega
  have hzero : n % 16 = 0 := by omega
  have hbyte : UInt8.ofNat (n / 16) = a := ofNat_eq (by omega)
  simp [lastGroup?, digitValue?_digit _ (by omega : n / 64 < 64),
    digitValue?_digit _ (by omega : n % 64 < 64), hn, hzero, hbyte]

theorem lastGroup?_two (a b : UInt8) :
    let n := a.toNat * 1024 + b.toNat * 4
    lastGroup? (digit (n / 4096)) (digit (n / 64 % 64)) (digit (n % 64)) '=' = some [a, b] := by
  intro n
  have ha := a.toNat_lt
  have hb := b.toNat_lt
  have hn : (n / 4096 * 64 + n / 64 % 64) * 64 + n % 64 = n := by omega
  have hzero : n % 4 = 0 := by omega
  have hfirst : UInt8.ofNat (n / 1024) = a := ofNat_eq (by omega)
  have hsecond : UInt8.ofNat (n / 4 % 256) = b := ofNat_eq (by omega)
  simp [lastGroup?, digitValue?_digit _ (by omega : n / 4096 < 64),
    digitValue?_digit _ (by omega : n / 64 % 64 < 64),
    digitValue?_digit _ (by omega : n % 64 < 64), digit_ne_equals _ (by omega : n % 64 < 64), hn,
    hzero, hfirst, hsecond]

theorem lastGroup?_digits {p q r s : Nat} (hp : p < 64) (hq : q < 64) (hr : r < 64) (hs : s < 64) :
    lastGroup? (digit p) (digit q) (digit r) (digit s) = some (fullGroup p q r s) := by
  simp [lastGroup?, digitValue?_digit, hp, hq, hr, hs, digit_ne_equals]

/-! ## Texts -/

theorem decode_cons {a b c d : Char} {rest : List Char} (h : rest ≠ []) :
    decode (a :: b :: c :: d :: rest) = (do
      let group := fullGroup (← digitValue? a) (← digitValue? b) (← digitValue? c) (← digitValue? d)
      return group ++ (← decode rest)) := by
  cases rest with
  | nil => exact absurd rfl h
  | cons e rest => rfl

/-- **What is written is read back.** -/
theorem decode_encode (bytes : List UInt8) : decode (encode bytes) = some bytes := by
  induction bytes using encode.induct with
  | case1 a b c rest ih =>
    have hb := b.toNat_lt
    have hc := c.toNat_lt
    have ha := a.toNat_lt
    have hgroup := fullGroup_digits a b c
    simp only at hgroup
    obtain ⟨n, hn⟩ : ∃ n, n = a.toNat * 65536 + b.toNat * 256 + c.toNat := ⟨_, rfl⟩
    rw [← hn] at hgroup
    have hp : n / 262144 < 64 := by omega
    have hq : n / 4096 % 64 < 64 := by omega
    have hr : n / 64 % 64 < 64 := by omega
    have hs : n % 64 < 64 := by omega
    rw [encode, ← hn]
    by_cases hrest : encode rest = []
    · obtain rfl : rest = [] := by
        rw [hrest, decode] at ih
        exact (Option.some.inj ih).symm
      rw [encode, decode, lastGroup?_digits hp hq hr hs, hgroup]
    · rw [decode_cons hrest, digitValue?_digit _ hp, digitValue?_digit _ hq, digitValue?_digit _ hr,
        digitValue?_digit _ hs, ih]
      simp [hgroup]
  | case2 a b => exact lastGroup?_two a b
  | case3 a => exact lastGroup?_one a
  | case4 => rfl

/-- A group of three bytes and one of two. -/
example : encode [77, 97, 110, 77, 97] = "TWFuTWE=".toList := by decide +kernel

end ProxyRouting.Text.Base64
