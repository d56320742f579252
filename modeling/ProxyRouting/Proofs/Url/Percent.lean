import Mathlib.Data.List.Basic
import ProxyRouting.Proofs.Text.Digit
import ProxyRouting.Url.Percent

/-!
# Percent-encoding is undone by decoding

What is decoded is a text just where its bytes are those of one.  Encoding is undone by decoding
where the percent sign itself is encoded; where it is not, nor any hexadecimal digit, encoding makes
no difference to what is decoded.

    decode? s = some t ↔ decodeBytes (bytes s) = bytes t
    decode? (encode p s) = some s            (p true of '%')
    decode? (encode p s) = decode? s         (p false of '%' and of hexadecimal digits)
    decode? s = some t → c ∈ s → c ∈ t       (c in ASCII, and neither '%' nor such a digit)
-/

namespace ProxyRouting.Url.Percent

/-! ## Bytes of a text -/

theorem bytes_eq_flatMap (s : List Char) : bytes s = s.flatMap String.utf8EncodeChar := by
  show (List.toByteArray _).data.toList = _
  simp

@[simp]
theorem bytes_nil : bytes [] = [] := rfl

theorem bytes_cons (c : Char) (s : List Char) :
    bytes (c :: s) = String.utf8EncodeChar c ++ bytes s := by
  simp only [bytes_eq_flatMap, List.flatMap_cons]

theorem bytes_append (s t : List Char) : bytes (s ++ t) = bytes s ++ bytes t := by
  simp only [bytes_eq_flatMap, List.flatMap_append]

theorem fromUTF8?_eq_some_iff {b : ByteArray} {text : String} :
    String.fromUTF8? b = some text ↔ text.toByteArray = b := by
  unfold String.fromUTF8?
  split
  · next h =>
    rw [Option.some.injEq, ← String.toByteArray_inj]
    exact eq_comm
  · next h =>
    constructor
    · intro hnone
      cases hnone
    · rintro rfl
      exact absurd text.isValidUTF8 h

theorem decode?_eq_some_iff {s t : List Char} :
    decode? s = some t ↔ decodeBytes (bytes s) = bytes t := by
  have htext : decode? s = some t ↔
      String.fromUTF8? ⟨(decodeBytes (bytes s)).toArray⟩ = some (String.ofList t) := by
    unfold decode?
    rw [Option.map_eq_some_iff]
    constructor
    · rintro ⟨text, htext, rfl⟩
      rw [htext, String.ofList_toList]
    · exact fun h => ⟨_, h, String.toList_ofList⟩
  rw [htext, fromUTF8?_eq_some_iff, ByteArray.ext_iff, ← Array.toList_inj]
  exact eq_comm

/-! ## Bytes of a character -/

theorem hexValue?_eq_none {c : Char} (h : 0x80 ≤ c.toNat) : Text.hexValue? c = none := by
  have hnot (d : Char) (hd : d.toNat < 0x80) : ¬ c ≤ d := by
    intro hcd
    have : c.toNat ≤ d.toNat := hcd
    omega
  have hdigit : ¬ c.isDigit = true := fun hc => hnot '9' (by decide) (Char.isDigit_iff_toNat.mp hc).2
  unfold Text.hexValue?
  rw [if_neg hdigit]
  simp [hnot 'f' (by decide), hnot 'F' (by decide)]

theorem utf8EncodeChar_of_lt {c : Char} (h : c.toNat < 0x80) :
    String.utf8EncodeChar c = [UInt8.ofNat c.toNat] := by
  have hle : c.val.toNat ≤ 127 := Nat.le_of_lt_succ h
  simp only [String.utf8EncodeChar, hle, if_true]
  rfl

/-- The bytes of a character that is not ASCII are none of ASCII. -/
theorem utf8EncodeChar_of_le {c : Char} (h : 0x80 ≤ c.toNat) :
    ∀ b ∈ String.utf8EncodeChar c, 0x80 ≤ b.toNat := by
  have hle : ¬ c.val.toNat ≤ 127 := Nat.not_le_of_lt h
  have hlast (n : Nat) : 0x80 ≤ (UInt8.ofNat (n % 64 + 128)).toNat := by
    rw [UInt8.toNat_ofNat']
    omega
  intro b hb
  simp only [String.utf8EncodeChar, hle, if_false] at hb
  split at hb
  · simp only [List.mem_cons, List.not_mem_nil, or_false] at hb
    rcases hb with rfl | rfl
    · rw [UInt8.toNat_ofNat']
      omega
    · exact hlast _
  · split at hb
    · simp only [List.mem_cons, List.not_mem_nil, or_false] at hb
      rcases hb with rfl | rfl | rfl
      · rw [UInt8.toNat_ofNat']
        omega
      · exact hlast _
      · exact hlast _
    · simp only [List.mem_cons, List.not_mem_nil, or_false] at hb
      rcases hb with rfl | rfl | rfl | rfl
      · rw [UInt8.toNat_ofNat']
        omega
      · exact hlast _
      · exact hlast _
      · exact hlast _

/-- The byte of an ASCII character is among those of no other. -/
theorem notMem_utf8EncodeChar {m c : Char} (hm : m.toNat < 0x80) (h : c ≠ m) :
    UInt8.ofNat m.toNat ∉ String.utf8EncodeChar c := by
  have hbyte : (UInt8.ofNat m.toNat).toNat = m.toNat := by
    rw [UInt8.toNat_ofNat', Nat.mod_eq_of_lt (by omega)]
  intro hmem
  by_cases hc : c.toNat < 0x80
  · rw [utf8EncodeChar_of_lt hc, List.mem_singleton, ← UInt8.toNat_inj, hbyte, UInt8.toNat_ofNat',
      Nat.mod_eq_of_lt (by omega)] at hmem
    exact h (Char.toNat_inj.mp hmem.symm)
  · have := utf8EncodeChar_of_le (Nat.le_of_not_lt hc) _ hmem
    omega

theorem utf8EncodeChar_ne_nil (c : Char) : String.utf8EncodeChar c ≠ [] := by
  rw [← List.length_pos_iff, String.length_utf8EncodeChar]
  exact Char.utf8Size_pos c

/-- No text starts with bytes of a character but with all of them. -/
theorem eq_nil_of_utf8EncodeChar_append {c : Char} {before after : List UInt8} {d : List Char}
    {rest : List UInt8} (hc : String.utf8EncodeChar c = before ++ after) (hafter : after ≠ [])
    (hd : bytes d = after ++ rest) : before = [] := by
  obtain ⟨b, after, rfl⟩ := List.exists_cons_of_ne_nil hafter
  cases d with
  | nil => cases hd
  | cons e d =>
    -- the byte is the first of `e`, and stands in `c` after those of `before`
    have hfirst : b.IsUTF8FirstByte := by
      obtain ⟨b', more, he⟩ := List.exists_cons_of_ne_nil (utf8EncodeChar_ne_nil e)
      rw [bytes_cons, he] at hd
      obtain rfl := (List.cons.inj hd).1
      have hlen : 0 < (String.utf8EncodeChar e).length := by
        rw [he]
        exact Nat.succ_pos _
      have := (@UInt8.isUTF8FirstByte_getElem_utf8EncodeChar e 0 hlen).mpr rfl
      simpa only [he, List.getElem_cons_zero] using this
    have hlen : before.length < (String.utf8EncodeChar c).length := by
      rw [hc]
      simp
    have hzero := (@UInt8.isUTF8FirstByte_getElem_utf8EncodeChar c before.length hlen).mp (by
      simpa only [hc, List.getElem_append_right (Nat.le_refl _), Nat.sub_self,
        List.getElem_cons_zero] using hfirst)
    exact List.length_eq_zero_iff.mp hzero

theorem bytes_inj {s t : List Char} : bytes s = bytes t ↔ s = t := by
  refine ⟨fun h => String.ofList_injective (String.toByteArray_inj.mp ?_), fun h => h ▸ rfl⟩
  exact ByteArray.ext (Array.toList_inj.mp h)

/-- What is left of a text, after bytes of it, is a text only where a character starts. -/
theorem exists_of_bytes_eq_append {s d : List Char} {before : List UInt8}
    (h : bytes s = before ++ bytes d) : ∃ x, s = x ++ d ∧ before = bytes x := by
  induction s generalizing before with
  | nil =>
    obtain ⟨rfl, hd⟩ := List.append_eq_nil_iff.mp h.symm
    exact ⟨[], (bytes_inj.mp (bytes_nil.trans hd.symm)), rfl⟩
  | cons c s ih =>
    rw [bytes_cons] at h
    rcases List.append_eq_append_iff.mp h with ⟨before', rfl, hs⟩ | ⟨after, hc, hd⟩
    · obtain ⟨x, rfl, rfl⟩ := ih hs
      exact ⟨c :: x, rfl, (bytes_cons c x).symm⟩
    · by_cases hafter : after = []
      · rw [hafter, List.append_nil] at hc
        rw [hafter, List.nil_append, bytes_inj] at hd
        exact ⟨[c], by rw [hd]; rfl, by rw [← hc, bytes_cons, bytes_nil, List.append_nil]⟩
      · obtain rfl := eq_nil_of_utf8EncodeChar_append hc hafter hd
        rw [List.nil_append, ← bytes_cons, bytes_inj] at h
        exact ⟨[], h, rfl⟩

theorem hexValue?_ofNat {c : Char} (h : c.toNat < 0x80) :
    hexValue? (UInt8.ofNat c.toNat) = Text.hexValue? c := by
  unfold hexValue?
  rw [UInt8.toNat_ofNat', Nat.mod_eq_of_lt (by omega), Char.ofNat_toNat]

theorem toNat_lt_of_hexValue? {c : Char} {n : Nat} (h : Text.hexValue? c = some n) :
    c.toNat < 0x80 := by
  by_contra hn
  rw [hexValue?_eq_none (Nat.le_of_not_lt hn)] at h
  cases h

/-- The first byte of a character tells whether it is a hexadecimal digit. -/
theorem bytes_cons_eq (c : Char) (s : List Char) :
    ∃ b bs, bytes (c :: s) = b :: bs ∧ hexValue? b = Text.hexValue? c := by
  by_cases hc : c.toNat < 0x80
  · rw [bytes_cons, utf8EncodeChar_of_lt hc]
    exact ⟨_, _, rfl, hexValue?_ofNat hc⟩
  · have hle := Nat.le_of_not_lt hc
    have hhigh := utf8EncodeChar_of_le hle
    obtain ⟨b, bs, hb⟩ := List.exists_cons_of_ne_nil (utf8EncodeChar_ne_nil c)
    rw [bytes_cons, hb]
    refine ⟨b, bs ++ bytes s, rfl, ?_⟩
    have hb' := hhigh b (by rw [hb]; exact List.mem_cons_self)
    have hbyte : (Char.ofNat b.toNat).toNat = b.toNat := by
      have hvalid : b.toNat.isValidChar := .inl (by have := b.toNat_lt; omega)
      rw [Char.ofNat, dif_pos hvalid]
      rfl
    rw [hexValue?_eq_none hle, hexValue?, hexValue?_eq_none (by omega)]

/-! ## Decoding -/

/-- The byte that two hexadecimal digits write at the start of a text, and what follows them. -/
def hexPair? : List Char → Option (UInt8 × List Char)
  | a :: b :: rest =>
    match Text.hexValue? a, Text.hexValue? b with
    | some x, some y => some (UInt8.ofNat (x * 16 + y), rest)
    | _, _ => none
  | _ => none

theorem hexPair?_eq_some_iff {s rest : List Char} {byte : UInt8} :
    hexPair? s = some (byte, rest) ↔ ∃ a b x y, s = a :: b :: rest ∧
      Text.hexValue? a = some x ∧ Text.hexValue? b = some y ∧ byte = UInt8.ofNat (x * 16 + y) := by
  constructor
  · intro h
    unfold hexPair? at h
    split at h
    · next a b t =>
      split at h
      · next x y hx hy =>
        cases h
        exact ⟨a, b, x, y, rfl, hx, hy, rfl⟩
      · cases h
    · cases h
  · rintro ⟨a, b, x, y, rfl, hx, hy, rfl⟩
    simp only [hexPair?, hx, hy]

/-- A text is read by characters, and by the three of an encoded byte at once. -/
@[elab_as_elim]
theorem encodedInduction {motive : List Char → Prop} (nil : motive [])
    (pair : ∀ s byte rest, hexPair? s = some (byte, rest) → motive rest → motive ('%' :: s))
    (bare : ∀ s, hexPair? s = none → motive s → motive ('%' :: s))
    (char : ∀ c s, c ≠ '%' → motive s → motive (c :: s)) (s : List Char) : motive s := by
  induction hlen : s.length using Nat.strongRecOn generalizing s with
  | ind n ih =>
    subst hlen
    cases s with
    | nil => exact nil
    | cons c s =>
      have hs := ih s.length (by simp) s rfl
      by_cases hc : c = '%'
      · subst hc
        cases hpair : hexPair? s with
        | none => exact bare s hpair hs
        | some r =>
          obtain ⟨a, b, -, -, rfl, -⟩ := hexPair?_eq_some_iff.mp hpair
          exact pair _ r.1 r.2 hpair (ih r.2.length (by simp; omega) r.2 rfl)
      · exact char c s hc hs

theorem decodeBytes_cons_of_ne {b : UInt8} (h : b ≠ 37) (bs : List UInt8) :
    decodeBytes (b :: bs) = b :: decodeBytes bs := by
  rw [decodeBytes]
  intro x y rest hb
  cases hb
  exact absurd rfl h

/-- Bytes without percent sign are decoded to themselves. -/
theorem decodeBytes_append {bs : List UInt8} (h : 37 ∉ bs) (rest : List UInt8) :
    decodeBytes (bs ++ rest) = bs ++ decodeBytes rest := by
  induction bs with
  | nil => rfl
  | cons b bs ih =>
    rw [List.mem_cons, not_or] at h
    rw [List.cons_append, decodeBytes_cons_of_ne (Ne.symm h.1), ih h.2]
    rfl

theorem percent_notMem_utf8EncodeChar {c : Char} (h : c ≠ '%') :
    37 ∉ String.utf8EncodeChar c :=
  notMem_utf8EncodeChar (m := '%') (by decide) h

theorem decodeBytes_bytes_cons {c : Char} (h : c ≠ '%') (s : List Char) :
    decodeBytes (bytes (c :: s)) = String.utf8EncodeChar c ++ decodeBytes (bytes s) := by
  rw [bytes_cons, decodeBytes_append (percent_notMem_utf8EncodeChar h)]

theorem bytes_cons_of_hexValue? {c : Char} {n : Nat} (h : Text.hexValue? c = some n)
    (s : List Char) : ∃ b, bytes (c :: s) = b :: bytes s ∧ hexValue? b = some n := by
  have hc := toNat_lt_of_hexValue? h
  exact ⟨_, by rw [bytes_cons, utf8EncodeChar_of_lt hc]; rfl, (hexValue?_ofNat hc).trans h⟩

/-- What follows a percent sign is read with it if it starts with two hexadecimal digits. -/
theorem decodeBytes_percent (s : List Char) : decodeBytes (bytes ('%' :: s)) =
    match hexPair? s with
    | some (b, rest) => b :: decodeBytes (bytes rest)
    | none => 37 :: decodeBytes (bytes s) := by
  have hpercent : bytes ('%' :: s) = 37 :: bytes s := bytes_cons '%' s
  rw [hpercent]
  cases hpair : hexPair? s with
  | some r =>
    obtain ⟨byte, rest⟩ := r
    obtain ⟨a, b, x, y, rfl, hx, hy, rfl⟩ := hexPair?_eq_some_iff.mp hpair
    obtain ⟨p, hp, hpx⟩ := bytes_cons_of_hexValue? hx (b :: rest)
    obtain ⟨q, hq, hqy⟩ := bytes_cons_of_hexValue? hy rest
    rw [hp, hq, decodeBytes]
    simp only [hpx, hqy]
  | none =>
    match s with
    | [] => rfl
    | a :: t =>
      obtain ⟨p, ps, hp, hpx⟩ := bytes_cons_eq a t
      rw [hp]
      cases ps with
      | nil => rfl
      | cons q qs =>
        rw [decodeBytes]
        cases hx : Text.hexValue? a with
        | none => simp only [hpx, hx]
        | some x =>
          obtain ⟨p', hp', -⟩ := bytes_cons_of_hexValue? hx t
          rw [hp'] at hp
          cases t with
          | nil => cases hp
          | cons b rest =>
            obtain ⟨q', qs', hq', hqy⟩ := bytes_cons_eq b rest
            rw [hq'] at hp
            cases hp
            cases hy : Text.hexValue? b with
            | none => simp only [hpx, hx, hqy, hy]
            | some y => simp only [hexPair?, hx, hy] at hpair; cases hpair

/-! ## Encoding -/

theorem hexValue?_hexDigit : ∀ n < 16, Text.hexValue? (hexDigit (UInt8.ofNat n)) = some n := by
  decide

/-- The two halves of a byte. -/
theorem halves (b : UInt8) : b / 16 = UInt8.ofNat (b.toNat / 16) ∧ b.toNat / 16 < 16 ∧
    b % 16 = UInt8.ofNat (b.toNat % 16) ∧ b.toNat % 16 < 16 := by
  have hlt := b.toNat_lt
  have hhigh : b.toNat / 16 < 2 ^ 8 := by omega
  have hlow : b.toNat % 16 < 2 ^ 8 := by omega
  refine ⟨?_, by omega, ?_, by omega⟩
  · rw [← UInt8.toNat_inj, UInt8.toNat_ofNat']
    exact (Nat.mod_eq_of_lt hhigh).symm
  · rw [← UInt8.toNat_inj, UInt8.toNat_ofNat']
    exact (Nat.mod_eq_of_lt hlow).symm

theorem hexPair?_encodeByte (b : UInt8) (s : List Char) :
    hexPair? (hexDigit (b / 16) :: hexDigit (b % 16) :: s) = some (b, s) := by
  obtain ⟨hb, hsmall, hb', hsmall'⟩ := halves b
  have hhigh : Text.hexValue? (hexDigit (b / 16)) = some (b.toNat / 16) := by
    rw [hb]
    exact hexValue?_hexDigit _ hsmall
  have hlow : Text.hexValue? (hexDigit (b % 16)) = some (b.toNat % 16) := by
    rw [hb']
    exact hexValue?_hexDigit _ hsmall'
  have hbyte : UInt8.ofNat (b.toNat / 16 * 16 + b.toNat % 16) = b := by
    rw [Nat.div_add_mod']
    exact UInt8.ofNat_toNat
  exact hexPair?_eq_some_iff.mpr ⟨_, _, _, _, rfl, hhigh, hlow, hbyte.symm⟩

theorem decodeBytes_encodeByte (bs : List UInt8) (s : List Char) :
    decodeBytes (bytes (bs.flatMap encodeByte ++ s)) = bs ++ decodeBytes (bytes s) := by
  induction bs with
  | nil => rfl
  | cons b bs ih =>
    show decodeBytes (bytes ('%' :: hexDigit (b / 16) :: hexDigit (b % 16) ::
      (bs.flatMap encodeByte ++ s))) = _
    rw [decodeBytes_percent, hexPair?_encodeByte]
    exact congrArg (b :: ·) ih

section
variable {p : Char → Bool}

theorem encode_cons_of_pos {c : Char} (h : p c = true) (s : List Char) :
    encode p (c :: s) = (String.utf8EncodeChar c).flatMap encodeByte ++ encode p s := by
  have hbytes : bytes [c] = String.utf8EncodeChar c := by
    rw [bytes_cons, bytes_nil, List.append_nil]
  simp only [encode, List.flatMap_cons, h, if_true, hbytes]

theorem encode_cons_of_neg {c : Char} (h : p c = false) (s : List Char) :
    encode p (c :: s) = c :: encode p s := by
  simp [encode, h]

/-- What is encoded starts with a percent sign. -/
theorem head?_encode_of_pos {c : Char} (h : p c = true) (s : List Char) :
    (encode p (c :: s)).head? = some '%' := by
  obtain ⟨b, bs, hb⟩ := List.exists_cons_of_ne_nil (utf8EncodeChar_ne_nil c)
  rw [encode_cons_of_pos h, hb]
  rfl

theorem encode_eq_nil_iff {s : List Char} : encode p s = [] ↔ s = [] := by
  cases s with
  | nil => simp [encode]
  | cons c s =>
    cases hc : p c with
    | true =>
      have := head?_encode_of_pos hc s
      refine iff_of_false (fun h => ?_) (List.cons_ne_nil c s)
      rw [h] at this
      cases this
    | false => simp [encode_cons_of_neg hc]

/-- **Encoding is undone**, where the percent sign is encoded. -/
theorem decode?_encode (h : p '%' = true) (s : List Char) : decode? (encode p s) = some s := by
  rw [decode?_eq_some_iff]
  induction s with
  | nil => rfl
  | cons c s ih =>
    cases hc : p c with
    | true => rw [encode_cons_of_pos hc, decodeBytes_encodeByte, ih, bytes_cons]
    | false =>
      have hne : c ≠ '%' := by
        rintro rfl
        rw [h] at hc
        cases hc
      rw [encode_cons_of_neg hc, decodeBytes_bytes_cons hne, ih, bytes_cons]

/-- No pair of digits comes from encoding, and none is lost. -/
theorem hexPair?_encode (hdigit : ∀ c n, Text.hexValue? c = some n → p c = false) (s : List Char) :
    hexPair? (encode p s) = (hexPair? s).map fun r => (r.1, encode p r.2) := by
  have hfirst : ∀ {a : Char} {s t : List Char} {x : Nat}, encode p s = a :: t →
      Text.hexValue? a = some x → ∃ s', s = a :: s' ∧ t = encode p s' := by
    intro a s t x hs hx
    cases s with
    | nil => cases hs
    | cons c s =>
      cases hc : p c with
      | true =>
        have hhead := head?_encode_of_pos hc s
        rw [hs] at hhead
        cases hhead
        cases hx
      | false =>
        rw [encode_cons_of_neg hc] at hs
        cases hs
        exact ⟨s, rfl, rfl⟩
  cases hpair : hexPair? s with
  | some r =>
    obtain ⟨byte, rest⟩ := r
    obtain ⟨a, b, x, y, rfl, hx, hy, rfl⟩ := hexPair?_eq_some_iff.mp hpair
    rw [encode_cons_of_neg (hdigit a x hx), encode_cons_of_neg (hdigit b y hy)]
    exact hexPair?_eq_some_iff.mpr ⟨a, b, x, y, rfl, hx, hy, rfl⟩
  | none =>
    cases hencoded : hexPair? (encode p s) with
    | none => rfl
    | some r =>
      obtain ⟨byte, rest⟩ := r
      obtain ⟨a, b, x, y, hs, hx, hy, rfl⟩ := hexPair?_eq_some_iff.mp hencoded
      obtain ⟨s', rfl, hs'⟩ := hfirst hs hx
      obtain ⟨s'', rfl, -⟩ := hfirst hs'.symm hy
      rw [hexPair?_eq_some_iff.mpr ⟨a, b, x, y, rfl, hx, hy, rfl⟩] at hpair
      cases hpair

/-- Where neither the percent sign nor a digit is encoded, what is decoded is the same. -/
theorem decodeBytes_bytes_encode (hpercent : p '%' = false)
    (hdigit : ∀ c n, Text.hexValue? c = some n → p c = false) (s : List Char) :
    decodeBytes (bytes (encode p s)) = decodeBytes (bytes s) := by
  induction s using encodedInduction with
  | nil => rfl
  | pair s byte rest hpair ih =>
    rw [encode_cons_of_neg hpercent, decodeBytes_percent, decodeBytes_percent,
      hexPair?_encode hdigit, hpair]
    exact congrArg (byte :: ·) ih
  | bare s hpair ih =>
    rw [encode_cons_of_neg hpercent, decodeBytes_percent, decodeBytes_percent,
      hexPair?_encode hdigit, hpair]
    exact congrArg (37 :: ·) ih
  | char c s hne ih =>
    cases hc : p c with
    | true =>
      rw [encode_cons_of_pos hc, decodeBytes_encodeByte, decodeBytes_bytes_cons hne, ih]
    | false =>
      rw [encode_cons_of_neg hc, decodeBytes_bytes_cons hne, decodeBytes_bytes_cons hne, ih]

theorem decode?_encode_eq (hpercent : p '%' = false)
    (hdigit : ∀ c n, Text.hexValue? c = some n → p c = false) (s : List Char) :
    decode? (encode p s) = decode? s := by
  unfold decode?
  rw [decodeBytes_bytes_encode hpercent hdigit]

/-- Where nothing has to be encoded, nothing is. -/
theorem encode_eq_self {s : List Char} (h : ∀ c ∈ s, p c = false) : encode p s = s := by
  induction s with
  | nil => rfl
  | cons c s ih =>
    rw [encode_cons_of_neg (h c List.mem_cons_self), ih fun d hd => h d (List.mem_cons_of_mem _ hd)]

end

/-- A text without percent sign is decoded to itself. -/
theorem decode?_eq_self {s : List Char} (h : '%' ∉ s) : decode? s = some s := by
  have hsame : encode (· == '%') s = s := by
    refine encode_eq_self fun c hc => ?_
    rw [beq_eq_false_iff_ne]
    rintro rfl
    exact h hc
  have := decode?_encode (p := (· == '%')) rfl s
  rwa [hsame] at this

/-- What is encoded is written with percent signs, digits and what is kept. -/
theorem mem_encode {p : Char → Bool} {s : List Char} {c : Char} (h : c ∈ encode p s) :
    (c ∈ s ∧ p c = false) ∨ c = '%' ∨ ∃ n < 16, c = hexDigit (UInt8.ofNat n) := by
  obtain ⟨d, hmem, hd⟩ := List.mem_flatMap.mp h
  split at hd
  · obtain ⟨b, -, hb⟩ := List.mem_flatMap.mp hd
    obtain ⟨hhigh, hsmall, hlow, hsmall'⟩ := halves b
    simp only [encodeByte, List.mem_cons, List.not_mem_nil, or_false] at hb
    rcases hb with rfl | rfl | rfl
    · exact .inr (.inl rfl)
    · exact .inr (.inr ⟨_, hsmall, by rw [hhigh]⟩)
    · exact .inr (.inr ⟨_, hsmall', by rw [hlow]⟩)
  · next hplain =>
    rw [List.mem_singleton.mp hd]
    exact .inl ⟨hmem, by simpa using hplain⟩

theorem isReserved_of_mem_encodeAll {s : List Char} {c : Char} (h : c ∈ encodeAll s) :
    c = '%' ∨ isReserved c = false := by
  have hdigit : ∀ n < 16, isReserved (hexDigit (UInt8.ofNat n)) = false := by decide +kernel
  rcases mem_encode h with ⟨-, hkept⟩ | rfl | ⟨n, hn, rfl⟩
  · exact .inr hkept
  · exact .inl rfl
  · exact .inr (hdigit n hn)

/-! ## How much is decoded -/

/-- A character that is no digit ends what is read with a percent sign before it. -/
theorem hexPair?_append_cons {c : Char} (hc : Text.hexValue? c = none) (s t : List Char) :
    hexPair? (s ++ c :: t) = (hexPair? s).map fun r => (r.1, r.2 ++ c :: t) := by
  match s with
  | [] => cases t <;> simp [hexPair?, hc]
  | [a] => cases ha : Text.hexValue? a <;> simp [hexPair?, ha, hc]
  | a :: b :: s =>
    cases ha : Text.hexValue? a <;> cases hb : Text.hexValue? b <;> simp [hexPair?, ha, hb]

theorem decodeBytes_append_cons {c : Char} (hc : Text.hexValue? c = none) (s t : List Char) :
    decodeBytes (bytes (s ++ c :: t)) = decodeBytes (bytes s) ++ decodeBytes (bytes (c :: t)) := by
  induction s using encodedInduction with
  | nil => rfl
  | pair s byte rest hpair ih =>
    rw [List.cons_append, decodeBytes_percent, decodeBytes_percent, hexPair?_append_cons hc, hpair]
    exact congrArg (byte :: ·) ih
  | bare s hpair ih =>
    rw [List.cons_append, decodeBytes_percent, decodeBytes_percent, hexPair?_append_cons hc, hpair]
    exact congrArg (37 :: ·) ih
  | char a s ha ih =>
    rw [List.cons_append, decodeBytes_bytes_cons ha, decodeBytes_bytes_cons ha, ih,
      List.append_assoc]

/-- A byte of ASCII is one of the bytes of its own character only. -/
theorem mem_of_mem_bytes {c : Char} (hc : c.toNat < 0x80) {s : List Char}
    (h : UInt8.ofNat c.toNat ∈ bytes s) : c ∈ s := by
  rw [bytes_eq_flatMap] at h
  obtain ⟨d, hd, hbyte⟩ := List.mem_flatMap.mp h
  by_cases hsame : d = c
  · rwa [← hsame]
  · exact absurd hbyte (notMem_utf8EncodeChar hc hsame)

/-- A character of ASCII that no encoding is written with is decoded to itself. -/
theorem mem_of_decode? {c : Char} (hc : c.toNat < 0x80) (hne : c ≠ '%')
    (hdigit : Text.hexValue? c = none) {s t : List Char} (h : decode? s = some t) (hmem : c ∈ s) :
    c ∈ t := by
  obtain ⟨before, after, rfl⟩ := List.append_of_mem hmem
  rw [decode?_eq_some_iff, decodeBytes_append_cons hdigit, decodeBytes_bytes_cons hne,
    utf8EncodeChar_of_lt hc] at h
  exact mem_of_mem_bytes hc (by simp [← h])

theorem length_decodeBytes_le (bs : List UInt8) : (decodeBytes bs).length ≤ bs.length := by
  fun_induction decodeBytes bs with
  | case1 a b rest x y hx hy ih => simp; omega
  | case2 a b rest hnone ih => simpa using ih
  | case3 b rest hne ih => simpa using ih
  | case4 => simp

/-- How many bytes a text is decoded to. -/
def decodedSize (s : List Char) : Nat :=
  (decodeBytes (bytes s)).length

theorem decodedSize_append_cons {c : Char} (hc : Text.hexValue? c = none) (s t : List Char) :
    decodedSize (s ++ c :: t) = decodedSize s + decodedSize (c :: t) := by
  rw [decodedSize, decodeBytes_append_cons hc, List.length_append]
  rfl

theorem decodedSize_cons {c : Char} (hne : c ≠ '%') (hc : c.toNat < 0x80) (s : List Char) :
    decodedSize (c :: s) = decodedSize s + 1 := by
  rw [decodedSize, decodeBytes_bytes_cons hne, utf8EncodeChar_of_lt hc]
  rfl

theorem decodedSize_pos {s : List Char} (h : s ≠ []) : 0 < decodedSize s := by
  obtain ⟨c, t, rfl⟩ := List.exists_cons_of_ne_nil h
  unfold decodedSize
  by_cases hc : c = '%'
  · subst hc
    rw [decodeBytes_percent]
    split <;> simp
  · rw [decodeBytes_bytes_cons hc, List.length_append, String.length_utf8EncodeChar]
    have := Char.utf8Size_pos c
    omega

/-- A text that gives what another is decoded to, decoded or as it is, has no more bytes. -/
theorem decodedSize_le {s t u : List Char} (hs : decode? s = some u)
    (ht : (decode? t).getD t = u) : decodedSize t ≤ decodedSize s := by
  have hsize : decodedSize s = (bytes u).length := by
    rw [decodedSize, decode?_eq_some_iff.mp hs]
  rw [hsize]
  cases hdecode : decode? t with
  | some w =>
    rw [hdecode] at ht
    obtain rfl : w = u := ht
    exact Nat.le_of_eq (congrArg List.length (decode?_eq_some_iff.mp hdecode))
  | none =>
    rw [hdecode] at ht
    obtain rfl : t = u := ht
    exact length_decodeBytes_le _

end ProxyRouting.Url.Percent
