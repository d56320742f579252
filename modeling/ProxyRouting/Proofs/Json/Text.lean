import ProxyRouting.Json.Text

/-!
# Written strings are read back

Each character inside quotes is one step of the reader, however it is written: as itself, as an
escape of one letter or by its number.  So a whole string is read back, whatever follows it:

    readTextFrom (_ :: clock) done (quotedChar c ++ s) = readTextFrom clock (c :: done) s
    readText (s.toList.flatMap quotedChar ++ '"' :: rest) = ok (s, rest)
-/

namespace ProxyRouting.Json

/-! ## Escapes by number -/

/-- The control characters are written with hexadecimal digits, each of one byte. -/
theorem hexChar_spec :
    ∀ n < 16, Text.hexValue? (hexChar n) = some n ∧ (hexChar n).utf8Size = 1 := by
  decide

theorem readEscape_number {n : Nat} (h : n < 0x20) (rest : List Char) :
    readEscape ('u' :: '0' :: '0' :: hexChar (n / 16) :: hexChar (n % 16) :: rest) =
      .ok (Char.ofNat n, rest) := by
  obtain ⟨hhigh, hhighSize⟩ := hexChar_spec (n / 16) (by omega)
  obtain ⟨hlow, hlowSize⟩ := hexChar_spec (n % 16) (by omega)
  have hzero : Text.hexValue? '0' = some 0 := by decide
  have hzeroSize : ('0' : Char).utf8Size = 1 := by decide
  have hvalue : ((0 * 16 + 0) * 16 + n / 16) * 16 + n % 16 = n := by omega
  have hlong : hasBytes 4 ('0' :: '0' :: hexChar (n / 16) :: hexChar (n % 16) :: rest) = true := by
    simp [hasBytes, hhighSize, hlowSize, hzeroSize]
  have hhex : readHex ('0' :: '0' :: hexChar (n / 16) :: hexChar (n % 16) :: rest) =
      .ok (n, rest) := by
    simp only [readHex, hlong, hzero, hhigh, hlow, hvalue]
    rfl
  have hsurrogate : ¬ (0xDC00 ≤ n) := by omega
  have hplain : n < 0xD800 := by omega
  simp [readEscape, readUnicodeEscape, hhex, hsurrogate, hplain, bind, Except.bind, pure,
    Except.pure]

/-! ## Characters and strings -/

/-- A character inside quotes is one step of the reader. -/
theorem readTextFrom_quotedChar (c k : Char) (clock done s : List Char) :
    readTextFrom (k :: clock) done (quotedChar c ++ s) = readTextFrom clock (c :: done) s := by
  unfold quotedChar
  split
  case h_8 hquote hbackslash _ _ _ _ _ =>
    split
    · next hcontrol =>
      have hnumber := readEscape_number hcontrol s
      rw [Char.ofNat_toNat] at hnumber
      simp only [List.cons_append, List.nil_append, readTextFrom, hnumber]
      rfl
    · next hplain =>
      have hquote' : (c == '"') = false := beq_false_of_ne hquote
      have hbackslash' : (c == '\\') = false := beq_false_of_ne hbackslash
      simp [readTextFrom, hquote', hbackslash', hplain]
  all_goals rfl

theorem readTextFrom_quoted (cs : List Char) : ∀ (clock done rest : List Char),
    cs.length < clock.length →
      readTextFrom clock done (cs.flatMap quotedChar ++ '"' :: rest) =
        .ok (String.ofList (done.reverse ++ cs), rest) := by
  induction cs with
  | nil =>
    intro clock done rest h
    cases clock with
    | nil => cases h
    | cons k clock => simp [readTextFrom]
  | cons c cs ih =>
    intro clock done rest h
    cases clock with
    | nil => cases h
    | cons k clock =>
      rw [List.flatMap_cons, List.append_assoc, readTextFrom_quotedChar,
        ih _ _ _ (Nat.lt_of_succ_lt_succ h)]
      simp

theorem length_le_flatMap_quotedChar (cs : List Char) :
    cs.length ≤ (cs.flatMap quotedChar).length := by
  induction cs with
  | nil => exact Nat.le_refl 0
  | cons c cs ih =>
    have hne : 0 < (quotedChar c).length := by
      unfold quotedChar
      split <;> try split
      all_goals exact Nat.succ_pos _
    rw [List.flatMap_cons, List.length_append, List.length_cons]
    omega

/-- A string after its opening quote. -/
theorem readText_quoted (s : String) (rest : List Char) :
    readText (s.toList.flatMap quotedChar ++ '"' :: rest) = .ok (s, rest) := by
  have hle := length_le_flatMap_quotedChar s.toList
  have hclock : s.toList.length < (s.toList.flatMap quotedChar ++ '"' :: rest).length := by
    rw [List.length_append, List.length_cons]
    omega
  rw [readText, readTextFrom_quoted _ _ _ _ hclock, List.reverse_nil, List.nil_append,
    String.ofList_toList]

end ProxyRouting.Json
