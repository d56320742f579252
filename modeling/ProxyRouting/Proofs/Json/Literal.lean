import ProxyRouting.Proofs.Json.Tree
import ProxyRouting.Proofs.Result
import ProxyRouting.Proofs.Text.Digit

/-!
# Strings in quotes

What is read of a string does not depend on what follows it, and a string is passed over up to its
closing quote, also one that cannot be read because half of a surrogate pair is missing.  Nothing
else is read or passed over.

    readText (l.body ++ '"' :: rest) = value of l and rest, or a fault for each rest
    skipText (l.body ++ '"' :: rest) = ok rest
    readText s = ok (text, rest) → s = l.body ++ '"' :: rest
-/

namespace ProxyRouting.Json

open Text (hexValue?)

/-- What stands between the quotes. -/
def Literal.body (l : Literal) : List Char :=
  l.pieces.flatMap Piece.text

/-- What is read of a string, if it can be read. -/
def Literal.value? (l : Literal) : Option String :=
  (readText (l.body ++ ['"'])).toOption.map Prod.fst

theorem Literal.text_append (l : Literal) (rest : List Char) :
    l.text ++ rest = '"' :: (l.body ++ '"' :: rest) := by
  simp [text, body]

/-- A string in front of other tokens. -/
theorem Literal.exists_of_spaced {l : Literal} {tokens : List (List Char)} {s : List Char}
    (h : Spaced (l.text :: tokens) s) : ∃ u, Spaced tokens u ∧ u.length < s.length ∧
      ∀ rest, dropBlanks (s ++ rest) = '"' :: (l.body ++ '"' :: (u ++ rest)) := by
  have htext : l.text = '"' :: (l.body ++ ['"']) := by
    rw [← List.append_nil l.text, l.text_append]
  rw [htext] at h
  obtain ⟨u, hu, hlength, hdrop⟩ := Json.exists_of_spaced (by decide) h
  exact ⟨u, hu, hlength, fun rest => by rw [hdrop, List.append_assoc, List.singleton_append]⟩

/-! ## Escapes -/

theorem isSome_simpleEscape?_iff {c : Char} :
    (simpleEscape? c).isSome = true ↔ c ∈ "\"\\/bfnrt".toList := by
  constructor
  · intro h
    unfold simpleEscape? at h
    split at h
    case h_9 => cases h
    all_goals decide
  · have hall : ∀ c ∈ "\"\\/bfnrt".toList, (simpleEscape? c).isSome = true :=
      Text.forall_mem (by decide)
    exact hall c

/-- A character takes at least one byte. -/
theorem hasBytes_of_le {n : Nat} {s : List Char} (h : n ≤ s.length) : hasBytes n s = true := by
  induction s generalizing n with
  | nil =>
    obtain rfl := Nat.le_zero.mp h
    rfl
  | cons c s ih =>
    cases n with
    | zero => rfl
    | succ n =>
      have := c.utf8Size_pos
      exact ih (by rw [List.length_cons] at h; omega)

theorem readHex_digits {a b c d : Char} (h : ∀ x ∈ [a, b, c, d], (hexValue? x).isSome = true) :
    ∃ n, ∀ s, readHex (a :: b :: c :: d :: s) = .ok (n, s) := by
  simp only [List.mem_cons, List.not_mem_nil, or_false, forall_eq_or_imp, forall_eq,
    Option.isSome_iff_exists] at h
  obtain ⟨⟨i, ha⟩, ⟨j, hb⟩, ⟨k, hc⟩, ⟨l, hd⟩⟩ := h
  refine ⟨((i * 16 + j) * 16 + k) * 16 + l, fun s => ?_⟩
  have hlong : hasBytes 4 (a :: b :: c :: d :: s) = true := hasBytes_of_le (by simp)
  simp only [readHex, hlong, ha, hb, hc, hd]
  rfl

theorem exists_of_readHex {s rest : List Char} {n : Nat} (h : readHex s = .ok (n, rest)) :
    ∃ a b c d, s = a :: b :: c :: d :: rest ∧
      ∀ x ∈ [a, b, c, d], (hexValue? x).isSome = true := by
  unfold readHex at h
  split at h
  · cases h
  · split at h
    · split at h
      · next ha hb hc hd =>
        cases h
        exact ⟨_, _, _, _, rfl, by simp [ha, hb, hc, hd]⟩
      · cases h
    · cases h

/-- The pieces of a string and its closing quote. -/
def closed (pieces : List Piece) (rest : List Char) : List Char :=
  pieces.flatMap Piece.text ++ '"' :: rest

theorem closed_cons (p : Piece) (pieces : List Piece) (rest : List Char) :
    closed (p :: pieces) rest = p.text ++ closed pieces rest := by
  simp [closed]

/-- Half of a surrogate pair needs another escape by number. -/
theorem readEscape_half {a b c d : Char} {n : Nat} {s : List Char}
    (hn : ∀ t, readHex (a :: b :: c :: d :: t) = .ok (n, t)) (hhalf : 0xD800 ≤ n ∧ n ≤ 0xDBFF)
    (hs : ∀ t, s ≠ '\\' :: 'u' :: t) :
    ∃ e, readEscape ('u' :: a :: b :: c :: d :: s) = .error e := by
  have hlow : ¬ (0xDC00 ≤ n ∧ n ≤ 0xDFFF) := by omega
  have hplain : ¬ (n < 0xD800 ∨ 0xDBFF < n) := by omega
  simp only [readEscape, readUnicodeEscape, hn, bind, Except.bind, Bool.and_eq_true,
    Bool.or_eq_true, decide_eq_true_eq, hlow, hplain, if_false]
  split
  · exact ⟨_, rfl⟩
  · exact ⟨_, rfl⟩
  · exact absurd rfl (hs _)
  · exact ⟨_, rfl⟩

/-- An escape by number is read with the next piece, if that is needed, or not at all. -/
theorem exists_readEscape {a b c d : Char} (h : ∀ x ∈ [a, b, c, d], (hexValue? x).isSome = true)
    (pieces : List Piece) : ∃ (x? : Option Char) (left : List Piece),
      left.length ≤ pieces.length ∧
        ∀ rest, (readEscape ('u' :: a :: b :: c :: d :: closed pieces rest)).toOption =
          x?.map (·, closed left rest) := by
  obtain ⟨n, hn⟩ := readHex_digits h
  by_cases hhalf : 0xD800 ≤ n ∧ n ≤ 0xDBFF
  · have hfault (hs : ∀ rest t, closed pieces rest ≠ '\\' :: 'u' :: t) :
        ∀ rest, (readEscape ('u' :: a :: b :: c :: d :: closed pieces rest)).toOption = none :=
      fun rest => by
        obtain ⟨e, he⟩ := readEscape_half hn hhalf (hs rest)
        rw [he]
        rfl
    cases pieces with
    | nil => exact ⟨none, [], Nat.le_refl _, hfault fun rest t ht => by cases ht⟩
    | cons p pieces =>
      cases p with
      | plain c' isPlain =>
        refine ⟨none, [], Nat.zero_le _, hfault fun rest t ht => ?_⟩
        rw [closed_cons] at ht
        exact isPlain.2.2 (List.cons.inj ht).1
      | escape c' isEscape =>
        refine ⟨none, [], Nat.zero_le _, hfault fun rest t ht => ?_⟩
        rw [closed_cons] at ht
        cases ht
        exact absurd isEscape (by decide)
      | number a' b' c' d' h' =>
        obtain ⟨m, hm⟩ := readHex_digits h'
        have hlow : ¬ (0xDC00 ≤ n ∧ n ≤ 0xDFFF) := by omega
        have hplain : ¬ (n < 0xD800 ∨ 0xDBFF < n) := by omega
        by_cases hpair : m < 0xDC00 ∨ 0xDFFF < m
        · refine ⟨none, [], Nat.zero_le _, fun rest => ?_⟩
          simp [readEscape, readUnicodeEscape, hn, hlow, hplain, closed_cons, Piece.text, hm, hpair,
            bind, Except.bind, Except.toOption]
        · refine ⟨some (Char.ofNat ((n - 0xD800) * 0x400 + (m - 0xDC00) + 0x10000)), pieces,
            Nat.le_succ _, fun rest => ?_⟩
          simp [readEscape, readUnicodeEscape, hn, hlow, hplain, closed_cons, Piece.text, hm, hpair,
            bind, Except.bind, pure, Except.pure, Except.toOption]
  · by_cases hlow : 0xDC00 ≤ n ∧ n ≤ 0xDFFF
    · exact ⟨none, pieces, Nat.le_refl _, fun rest => by
        simp [readEscape, readUnicodeEscape, hn, hlow, bind, Except.bind, Except.toOption]⟩
    · have hplain : n < 0xD800 ∨ 0xDBFF < n := by omega
      exact ⟨some (Char.ofNat n), pieces, Nat.le_refl _, fun rest => by
        simp [readEscape, readUnicodeEscape, hn, hlow, hplain, bind, Except.bind, pure, Except.pure,
          Except.toOption]⟩

/-! ## Reading -/

theorem readTextFrom_plain {c : Char} (h : 0x20 ≤ c.toNat ∧ c ≠ '"' ∧ c ≠ '\\') (k : Char)
    (clock done s : List Char) :
    readTextFrom (k :: clock) done (c :: s) = readTextFrom clock (c :: done) s := by
  have hcontrol : ¬ c.toNat < 0x20 := by omega
  simp [readTextFrom, h.2.1, h.2.2, hcontrol]

theorem readTextFrom_backslash (k : Char) (clock done s : List Char) :
    readTextFrom (k :: clock) done ('\\' :: s) =
      match readEscape s with
      | .error e => .error e
      | .ok (c, rest) => readTextFrom clock (c :: done) rest :=
  rfl

theorem readEscape_escape {c : Char} (h : c ∈ "\"\\/bfnrt".toList) :
    ∃ d, ∀ s, readEscape (c :: s) = .ok (d, s) := by
  obtain ⟨d, hd⟩ := Option.isSome_iff_exists.mp (isSome_simpleEscape?_iff.mpr h)
  have hu : c ≠ 'u' := fun hc => absurd (hc ▸ h) (by decide)
  refine ⟨d, fun s => ?_⟩
  unfold readEscape
  split
  · next heq => cases heq
  · next heq => exact absurd (List.cons.inj heq).1 hu
  · next heq =>
    cases heq
    rw [hd]

/-- What is read of the pieces does not depend on what follows the closing quote. -/
theorem exists_readTextFrom (pieces : List Piece) : ∃ cs? : Option (List Char),
    ∀ clock done rest, pieces.length < clock.length →
      (readTextFrom clock done (closed pieces rest)).toOption =
        cs?.map fun cs => (String.ofList (done.reverse ++ cs), rest) := by
  -- after an escape by number more than one piece may be done
  induction hlength : pieces.length using Nat.strongRecOn generalizing pieces with
  | ind n ih =>
    have hclock {clock : List Char} (h : n < clock.length) : ∃ k more, clock = k :: more :=
      List.exists_cons_of_length_pos (by omega)
    cases pieces with
    | nil =>
      refine ⟨some [], fun clock done rest h => ?_⟩
      obtain ⟨k, clock, rfl⟩ := hclock h
      simp [closed, readTextFrom, Except.toOption]
    | cons p pieces =>
      rw [List.length_cons] at hlength
      cases p with
      | plain c isPlain =>
        obtain ⟨cs?, hcs⟩ := ih pieces.length (by omega) pieces rfl
        refine ⟨cs?.map (c :: ·), fun clock done rest h => ?_⟩
        obtain ⟨k, clock, rfl⟩ := hclock h
        rw [List.length_cons] at h
        rw [closed_cons, Piece.text, List.singleton_append, readTextFrom_plain isPlain,
          hcs _ _ _ (by omega)]
        cases cs? <;> simp
      | escape c isEscape =>
        obtain ⟨d, hd⟩ := readEscape_escape isEscape
        obtain ⟨cs?, hcs⟩ := ih pieces.length (by omega) pieces rfl
        refine ⟨cs?.map (d :: ·), fun clock done rest h => ?_⟩
        obtain ⟨k, clock, rfl⟩ := hclock h
        rw [List.length_cons] at h
        rw [closed_cons, Piece.text, List.cons_append, List.singleton_append,
          readTextFrom_backslash, hd]
        simp only
        rw [hcs _ _ _ (by omega)]
        cases cs? <;> simp
      | number a b c d isHex =>
        obtain ⟨x?, left, hleft, hx⟩ := exists_readEscape isHex pieces
        obtain ⟨cs?, hcs⟩ := ih left.length (by omega) left rfl
        refine ⟨x?.bind fun x => cs?.map (x :: ·), fun clock done rest h => ?_⟩
        obtain ⟨k, clock, rfl⟩ := hclock h
        rw [List.length_cons] at h
        have hread := hx rest
        rw [closed_cons]
        simp only [Piece.text, List.cons_append, List.nil_append]
        rw [readTextFrom_backslash]
        cases x? with
        | none =>
          cases he : readEscape ('u' :: a :: b :: c :: d :: closed pieces rest) with
          | error e => rfl
          | ok r =>
            rw [he] at hread
            cases hread
        | some x =>
          cases he : readEscape ('u' :: a :: b :: c :: d :: closed pieces rest) with
          | error e =>
            rw [he] at hread
            cases hread
          | ok r =>
            rw [he] at hread
            cases hread
            simp only
            rw [hcs _ _ _ (by omega)]
            cases cs? <;> simp

theorem length_le_closed (pieces : List Piece) (rest : List Char) :
    pieces.length < (closed pieces rest).length := by
  induction pieces with
  | nil => simp [closed]
  | cons p pieces ih =>
    have hpos : 0 < p.text.length := by cases p <;> simp [Piece.text]
    rw [closed_cons, List.length_append, List.length_cons]
    omega

/-- **What is read of a string does not depend on what follows it.** -/
theorem readText_body (l : Literal) (rest : List Char) :
    (readText (l.body ++ '"' :: rest)).toOption = l.value?.map (·, rest) := by
  obtain ⟨cs?, hcs⟩ := exists_readTextFrom l.pieces
  have hread (rest : List Char) : (readText (l.body ++ '"' :: rest)).toOption =
      cs?.map fun cs => (String.ofList cs, rest) :=
    hcs _ [] rest (length_le_closed l.pieces rest)
  rw [Literal.value?, hread, hread]
  cases cs? <;> rfl

/-! ## Passing over -/

theorem skipEscape_number {a b c d : Char} (h : ∀ x ∈ [a, b, c, d], (hexValue? x).isSome = true)
    (s : List Char) : skipEscape ('u' :: a :: b :: c :: d :: s) = .ok s := by
  obtain ⟨n, hn⟩ := readHex_digits h
  rw [skipEscape, hn]
  rfl

theorem skipEscape_escape {c : Char} (h : c ∈ "\"\\/bfnrt".toList) (s : List Char) :
    skipEscape (c :: s) = .ok s := by
  have hu : c ≠ 'u' := fun hc => absurd (hc ▸ h) (by decide)
  unfold skipEscape
  split
  · next heq => cases heq
  · next heq => exact absurd (List.cons.inj heq).1 hu
  · next heq =>
    cases heq
    rw [if_pos (isSome_simpleEscape?_iff.mpr h)]

theorem skipTextFrom_closed (pieces : List Piece) : ∀ (clock rest : List Char),
    pieces.length < clock.length → skipTextFrom clock (closed pieces rest) = .ok rest := by
  induction pieces with
  | nil =>
    intro clock rest h
    obtain ⟨k, clock, rfl⟩ := List.exists_cons_of_length_pos (by omega : 0 < clock.length)
    rfl
  | cons p pieces ih =>
    intro clock rest h
    obtain ⟨k, clock, rfl⟩ := List.exists_cons_of_length_pos (by omega : 0 < clock.length)
    have hrest := ih clock rest (Nat.lt_of_succ_lt_succ h)
    rw [closed_cons]
    cases p with
    | plain c isPlain =>
      have hcontrol : ¬ c.toNat < 0x20 := by omega
      simp [Piece.text, skipTextFrom, isPlain.2.1, isPlain.2.2, hcontrol, hrest]
    | escape c isEscape =>
      simp [Piece.text, skipTextFrom, skipEscape_escape isEscape, hrest]
    | number a b c d isHex =>
      simp [Piece.text, skipTextFrom, skipEscape_number isHex, hrest]

theorem skipText_body (l : Literal) (rest : List Char) :
    skipText (l.body ++ '"' :: rest) = .ok rest :=
  skipTextFrom_closed l.pieces _ rest (length_le_closed l.pieces rest)

/-! ## Nothing else -/

theorem exists_of_readUnicodeEscape {s rest : List Char} {c : Char}
    (h : readUnicodeEscape s = .ok (c, rest)) :
    ∃ pieces : List Piece, '\\' :: 'u' :: s = pieces.flatMap Piece.text ++ rest := by
  obtain ⟨⟨n, t⟩, hn, hread⟩ := bind_ok_iff.mp h
  obtain ⟨a, b, c', d, rfl, hex⟩ := exists_of_readHex hn
  clear h
  simp only at hread
  split at hread
  · cases hread
  · split at hread
    · cases hread
      exact ⟨[.number a b c' d hex], rfl⟩
    · split at hread
      · cases hread
      · cases hread
      · next u =>
        obtain ⟨⟨m, v⟩, hm, hpair⟩ := bind_ok_iff.mp hread
        obtain ⟨a', b', c'', d', rfl, hex'⟩ := exists_of_readHex hm
        clear hread
        simp only at hpair
        split at hpair
        · cases hpair
        · obtain ⟨-, rfl⟩ := Prod.mk.inj (Except.ok.inj hpair)
          exact ⟨[.number a b c' d hex, .number a' b' c'' d' hex'], rfl⟩
      · cases hread

theorem exists_of_readEscape {s rest : List Char} {c : Char} (h : readEscape s = .ok (c, rest)) :
    ∃ pieces : List Piece, '\\' :: s = pieces.flatMap Piece.text ++ rest := by
  unfold readEscape at h
  split at h
  · cases h
  · exact exists_of_readUnicodeEscape h
  · next c' s _ =>
    split at h
    · next d hd =>
      cases h
      exact ⟨[.escape c' (isSome_simpleEscape?_iff.mp (by rw [hd]; rfl))], rfl⟩
    · cases h

theorem exists_of_skipEscape {s rest : List Char} (h : skipEscape s = .ok rest) :
    ∃ pieces : List Piece, '\\' :: s = pieces.flatMap Piece.text ++ rest := by
  unfold skipEscape at h
  split at h
  · cases h
  · next s =>
    cases hn : readHex s with
    | error e =>
      rw [hn] at h
      cases h
    | ok r =>
      rw [hn] at h
      cases h
      obtain ⟨a, b, c, d, rfl, hex⟩ := exists_of_readHex hn
      exact ⟨[.number a b c d hex], rfl⟩
  · next c s _ =>
    split at h
    · next hc =>
      cases h
      exact ⟨[.escape c (isSome_simpleEscape?_iff.mp hc)], rfl⟩
    · cases h

section
variable {s rest : List Char}

/-- Pieces in front of what is closed. -/
theorem exists_closed_append {t : List Char} {pieces : List Piece}
    (hs : s = pieces.flatMap Piece.text ++ t) (h : ∃ more, t = closed more rest) :
    ∃ all, s = closed all rest := by
  obtain ⟨more, rfl⟩ := h
  exact ⟨pieces ++ more, by simp [hs, closed]⟩

theorem exists_closed_cons {c : Char} (hquote : (c == '"') = false)
    (hbackslash : (c == '\\') = false) (hcontrol : ¬ c.toNat < 0x20)
    (h : ∃ more, s = closed more rest) :
    ∃ all, c :: s = closed all rest := by
  have hplain : 0x20 ≤ c.toNat ∧ c ≠ '"' ∧ c ≠ '\\' :=
    ⟨by omega, beq_eq_false_iff_ne.mp hquote, beq_eq_false_iff_ne.mp hbackslash⟩
  have hpiece : c :: s = [Piece.plain c hplain].flatMap Piece.text ++ s := rfl
  exact exists_closed_append hpiece h

theorem exists_of_readTextFrom {text : String} : ∀ {clock done s : List Char},
    readTextFrom clock done s = .ok (text, rest) → ∃ pieces, s = closed pieces rest := by
  intro clock
  induction clock with
  | nil =>
    intro done s h
    cases s <;> cases h
  | cons k clock ih =>
    intro done s h
    cases s with
    | nil => cases h
    | cons c s =>
      unfold readTextFrom at h
      split at h
      · next hquote =>
        cases h
        exact ⟨[], by rw [beq_iff_eq.mp hquote]; rfl⟩
      · next hquote =>
        split at h
        · next hbackslash =>
          split at h
          · cases h
          · next he =>
            obtain ⟨pieces, hpieces⟩ := exists_of_readEscape he
            rw [beq_iff_eq.mp hbackslash]
            exact exists_closed_append hpieces (ih h)
        · next hbackslash =>
          split at h
          · cases h
          · next hcontrol =>
            exact exists_closed_cons (by simpa using hquote) (by simpa using hbackslash) hcontrol
              (ih h)

theorem exists_of_skipTextFrom : ∀ {clock s : List Char},
    skipTextFrom clock s = .ok rest → ∃ pieces, s = closed pieces rest := by
  intro clock
  induction clock with
  | nil =>
    intro s h
    cases s <;> cases h
  | cons k clock ih =>
    intro s h
    cases s with
    | nil => cases h
    | cons c s =>
      unfold skipTextFrom at h
      split at h
      · next hquote =>
        cases h
        exact ⟨[], by rw [beq_iff_eq.mp hquote]; rfl⟩
      · next hquote =>
        split at h
        · next hbackslash =>
          split at h
          · cases h
          · next he =>
            obtain ⟨pieces, hpieces⟩ := exists_of_skipEscape he
            rw [beq_iff_eq.mp hbackslash]
            exact exists_closed_append hpieces (ih h)
        · next hbackslash =>
          split at h
          · cases h
          · next hcontrol =>
            exact exists_closed_cons (by simpa using hquote) (by simpa using hbackslash) hcontrol
              (ih h)

/-- **Only strings are read.** -/
theorem exists_of_readText {text : String} (h : readText s = .ok (text, rest)) :
    ∃ l : Literal, '"' :: s = l.text ++ rest := by
  obtain ⟨pieces, rfl⟩ := exists_of_readTextFrom h
  exact ⟨⟨pieces⟩, (Literal.text_append ⟨pieces⟩ rest).symm⟩

theorem exists_of_skipText (h : skipText s = .ok rest) :
    ∃ l : Literal, '"' :: s = l.text ++ rest := by
  obtain ⟨pieces, rfl⟩ := exists_of_skipTextFrom h
  exact ⟨⟨pieces⟩, (Literal.text_append ⟨pieces⟩ rest).symm⟩

end

end ProxyRouting.Json
