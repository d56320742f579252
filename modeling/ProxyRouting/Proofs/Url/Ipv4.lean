import ProxyRouting.Proofs.Url.Domain

/-!
# IPv4 addresses are read back

An address is written as its four bytes in decimal.  That is a plain text, and its last part is a
number, so it is read as an address, of these bytes.

    parse? a.text = some a
    Host.parse a.text = .ok (.ipv4 a)                                             (parse_text)
-/

namespace ProxyRouting.Url.Ipv4

/-- The bytes of an address, the highest first. -/
def bytes (a : Ipv4) : List Nat :=
  let n := a.address.toNat
  [n / 16777216, n / 65536 % 256, n / 256 % 256, n % 256]

variable (a : Ipv4)

theorem text_eq : a.text = ['.'].intercalate (a.bytes.map (Nat.toDigits 10)) :=
  rfl

theorem lt_of_mem_bytes : ∀ n ∈ a.bytes, n < 256 := by
  have := a.address.toNat_lt
  simp only [bytes, List.mem_cons, List.not_mem_nil, or_false, forall_eq_or_imp, forall_eq]
  omega

/-! ## Parts -/

theorem part?_toDigits : ∀ n < 256, part? (Nat.toDigits 10 n) = some n := by
  decide +kernel

theorem isDigit_of_mem_toDigits {n : Nat} : ∀ c ∈ Nat.toDigits 10 n, c.isDigit = true :=
  fun _ => Nat.isDigit_of_mem_toDigits (by decide) (by decide)

theorem splitOn_text : a.text.splitOn '.' = a.bytes.map (Nat.toDigits 10) := by
  rw [text_eq]
  refine List.splitOn_intercalate '.' ?_ (by simp [bytes])
  rw [List.forall_mem_map]
  exact fun n _ hdot => absurd (isDigit_of_mem_toDigits _ hdot) (by decide)

theorem parts_text : parts a.text = a.bytes.map (Nat.toDigits 10) := by
  have hlast : (a.bytes.map (Nat.toDigits 10)).getLast? =
      some (Nat.toDigits 10 (a.address.toNat % 256)) := rfl
  rw [parts, Text.splitAt_eq_splitOn, splitOn_text, hlast, if_neg]
  simp

theorem mapM_part? : (parts a.text).mapM part? = some a.bytes := by
  rw [parts_text, List.mapM_map]
  have hparts := mapM_eq_some (f := part? ∘ Nat.toDigits 10) (g := id) fun n hn =>
    part?_toDigits n (a.lt_of_mem_bytes n hn)
  rw [List.map_id] at hparts
  exact hparts

/-- The last part is a number. -/
theorem endsInNumber_text : endsInNumber a.text = true := by
  have hlast : (parts a.text).getLast? = some (Nat.toDigits 10 (a.address.toNat % 256)) := by
    rw [parts_text]
    rfl
  have hpart := part?_toDigits (a.address.toNat % 256) (Nat.mod_lt _ (by decide))
  rw [endsInNumber, hlast]
  simp only [hpart, Option.isSome_some, Bool.or_true]

theorem assemble?_bytes : assemble? 4 a.bytes = some a.address.toNat := by
  obtain ⟨n1, n2, n3, n4, hbytes⟩ : ∃ n1 n2 n3 n4, a.bytes = [n1, n2, n3, n4] := ⟨_, _, _, _, rfl⟩
  have hlt := a.lt_of_mem_bytes
  have hsum : n1 * 16777216 + (n2 * 65536 + (n3 * 256 + n4)) = a.address.toNat := by
    cases hbytes
    omega
  rw [hbytes] at hlt ⊢
  simp only [List.mem_cons, List.not_mem_nil, or_false, forall_eq_or_imp, forall_eq] at hlt
  simp [assemble?, hlt, hsum]

theorem parse?_text : parse? a.text = some a := by
  have hlength : ¬ 4 < a.bytes.length := by simp [bytes]
  rw [parse?, mapM_part?, Option.bind_eq_bind, Option.bind_some, if_neg hlength, assemble?_bytes]
  exact congrArg (fun n => some (Ipv4.mk n)) UInt32.ofNat_toNat

/-! ## The host -/

theorem isPlainText_text : IsPlainText a.text where
  chars := by
    intro c hc
    rw [text_eq] at hc
    rcases Text.mem_of_mem_intercalate hc with rfl | ⟨piece, hpiece, hc⟩
    · exact .inr (.inr (.inr rfl))
    · obtain ⟨n, -, rfl⟩ := List.mem_map.mp hpiece
      exact .inr (.inl (isDigit_of_mem_toDigits c hc))
  labels := by
    rw [splitOn_text, List.forall_mem_map]
    intro n _ hmark
    exact absurd (isDigit_of_mem_toDigits 'x' (hmark.subset (by decide))) (by decide)

theorem text_ne_nil : a.text ≠ [] := by
  rw [text_eq, bytes, List.map_cons, List.map_cons, List.intercalate_cons_cons]
  simp

/-- **An address is read back.** -/
theorem parse_text : Host.parse a.text = .ok (.ipv4 a) := by
  have hplain := a.isPlainText_text
  have hpercent : '%' ∉ a.text := fun hc => absurd (hplain.char_plain hc).2.1 (by decide +kernel)
  have hbracket (rest : List Char) : a.text ≠ '[' :: rest := fun htext =>
    absurd (hplain.isForbidden_eq (c := '[') (by rw [htext]; exact List.mem_cons_self)) (by decide)
  have hdomain : Host.parseDomain a.text = .ok (.ipv4 a) := by
    unfold Host.parseDomain
    rw [Percent.decode?_eq_self hpercent, Option.bind_some, hplain.toAscii_eq]
    have hread := a.parse?_text
    have hnumber := a.endsInNumber_text
    obtain ⟨c, t, hct⟩ := List.exists_cons_of_ne_nil a.text_ne_nil
    rw [hct] at hread hnumber ⊢
    simp only [hnumber, hread, if_true]
  unfold Host.parse
  split
  · next rest htext => exact absurd htext (hbracket rest)
  · exact hdomain

end ProxyRouting.Url.Ipv4
