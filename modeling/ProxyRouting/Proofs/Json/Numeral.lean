import ProxyRouting.Proofs.Json.Number
import ProxyRouting.Proofs.Json.Tree
import ProxyRouting.Proofs.Result
import ProxyRouting.Proofs.Text.Digit

/-!
# Numerals

What is read of a number does not depend on what follows it, and a number is passed over up to its
end, also one that is out of range.  Nothing else is read or passed over.

    readNumber negative (n.unsigned ++ rest) = (value of n).map (·, rest)
    skipNumber (n.unsigned ++ rest) = ok rest
    readNumber negative s = ok (x, rest) → s = n.unsigned ++ rest
-/

namespace ProxyRouting.Json

/-! ## Digits -/

theorem EndsToken.endsNumber {rest : List Char} (h : EndsToken rest) : EndsNumber rest := by
  intro c hc
  have hmark : c ∈ [' ', '\n', '\t', '\r', ',', ']', '\x7d'] := by
    rcases h c hc with hblank | rfl | rfl | rfl
    · simp only [isBlank, Bool.or_eq_true, beq_iff_eq] at hblank
      rcases hblank with ((rfl | rfl) | rfl) | rfl <;> decide
    all_goals decide
  have hall : ∀ c ∈ [' ', '\n', '\t', '\r', ',', ']', '\x7d'],
      c.isDigit = false ∧ c ≠ '.' ∧ c ≠ 'e' ∧ c ≠ 'E' := Text.forall_mem (by decide)
  exact hall c hmark

section
variable {ds rest : List Char}

theorem dropWhile_of_isDigitNext (h : isDigitNext rest = false) :
    rest.dropWhile Char.isDigit = rest := by
  cases rest with
  | nil => rfl
  | cons c rest => exact List.dropWhile_cons_of_neg (by simp [show c.isDigit = false from h])

theorem dropWhile_digits (hds : ∀ c ∈ ds, c.isDigit = true) (hrest : isDigitNext rest = false) :
    (ds ++ rest).dropWhile Char.isDigit = rest := by
  rw [List.dropWhile_append_of_pos hds, dropWhile_of_isDigitNext hrest]

/-- Digits are taken up while they fit. -/
theorem exists_takeDigits (hds : ∀ c ∈ ds, c.isDigit = true) (significand taken : Nat) :
    ∃ v n left, (∀ c ∈ left, c.isDigit = true) ∧ ∀ rest, isDigitNext rest = false →
      takeDigits significand taken (ds ++ rest) = (v, n, left ++ rest) := by
  induction ds generalizing significand taken with
  | nil =>
    refine ⟨significand, taken, [], by simp, fun rest hrest => ?_⟩
    cases rest with
    | nil => rfl
    | cons c rest => simp [takeDigits, digit?_of_not_isDigit hrest]
  | cons d ds ih =>
    obtain ⟨hd, hds'⟩ := List.forall_mem_cons.mp hds
    by_cases hfits : maxSignificand < significand * 10 + (d.toNat - '0'.toNat)
    · exact ⟨significand, taken, d :: ds, hds, fun rest _ => by
        simp only [List.cons_append, takeDigits, digit?_of_isDigit hd, hfits, if_true]⟩
    · obtain ⟨v, n, left, hleft, htake⟩ :=
        ih hds' (significand * 10 + (d.toNat - '0'.toNat)) (taken + 1)
      exact ⟨v, n, left, hleft, fun rest hrest => by
        simp only [List.cons_append, takeDigits, digit?_of_isDigit hd, hfits, if_false]
        exact htake rest hrest⟩

theorem exists_takeExponent (hds : ∀ c ∈ ds, c.isDigit = true) (value : Nat) :
    ∃ e? left, (∀ c ∈ left, c.isDigit = true) ∧ (e?.isSome = true → left = []) ∧
      ∀ rest, isDigitNext rest = false → takeExponent value (ds ++ rest) = (e?, left ++ rest) := by
  induction ds generalizing value with
  | nil =>
    refine ⟨some value, [], by simp, fun _ => rfl, fun rest hrest => ?_⟩
    cases rest with
    | nil => rfl
    | cons c rest => simp [takeExponent, digit?_of_not_isDigit hrest]
  | cons d ds ih =>
    obtain ⟨hd, hds'⟩ := List.forall_mem_cons.mp hds
    by_cases hfits : 0x80000000 ≤ value * 10 + (d.toNat - '0'.toNat)
    · exact ⟨none, ds, hds', nofun, fun rest _ => by
        simp only [List.cons_append, takeExponent, digit?_of_isDigit hd, hfits, if_true]⟩
    · obtain ⟨e?, left, hleft, hsome, htake⟩ := ih hds' (value * 10 + (d.toNat - '0'.toNat))
      exact ⟨e?, left, hleft, hsome, fun rest hrest => by
        simp only [List.cons_append, takeExponent, digit?_of_isDigit hd, hfits, if_false]
        exact htake rest hrest⟩

end

theorem Digits.exists_cons (ds : Digits) : ∃ d more, ds.chars = d :: more ∧ d.isDigit = true ∧
    ∀ c ∈ more, c.isDigit = true := by
  obtain ⟨chars, ne, isDigit⟩ := ds
  obtain ⟨d, more, rfl⟩ := List.exists_cons_of_ne_nil ne
  exact ⟨d, more, rfl, List.forall_mem_cons.mp isDigit⟩

theorem ne_of_isDigit {c d : Char} (hc : c.isDigit = true) (hd : d.isDigit = false) : c ≠ d := by
  rintro rfl
  rw [hc] at hd
  cases hd

/-! ## Exponents -/

/-- Whether an exponent goes down, and its digits. -/
def exponentSign (s : List Char) : Bool × List Char :=
  match s with
  | '+' :: rest => (false, rest)
  | '-' :: rest => (true, rest)
  | _ => (false, s)

/-- The digits of an exponent after its sign. -/
def readExponentDigits (negative : Bool) (significand : Nat) (start : Int) (isDown : Bool)
    (s : List Char) : Except Error (Number × List Char) :=
  match s with
  | [] => .error .endInValue
  | c :: rest =>
    match digit? c with
    | none => .error .invalidNumber
    | some d =>
      match takeExponent d rest with
      | (none, rest) =>
        if significand != 0 && !isDown then .error .numberOutOfRange
        else .ok (.double (if negative then -0.0 else 0.0), rest.dropWhile Char.isDigit)
      | (some e, rest) => do
        return (← double negative significand (if isDown then start - e else start + e), rest)

theorem exponentSign_of_isDigit {c : Char} (h : c.isDigit = true) (s : List Char) :
    exponentSign (c :: s) = (false, c :: s) := by
  unfold exponentSign
  split
  · next heq => exact absurd (List.cons.inj heq).1 (ne_of_isDigit h (by decide))
  · next heq => exact absurd (List.cons.inj heq).1 (ne_of_isDigit h (by decide))
  · rfl

theorem exponentSign_append (e : Exponent) : ∃ isDown, ∀ rest,
    exponentSign (e.sign.toList ++ e.digits.chars ++ rest) = (isDown, e.digits.chars ++ rest) := by
  obtain ⟨mark, sign, digits, -, hsign⟩ := e
  cases sign with
  | none =>
    obtain ⟨d, ds, hchars, hd, -⟩ := digits.exists_cons
    refine ⟨false, fun rest => ?_⟩
    simp only [hchars]
    exact exponentSign_of_isDigit hd _
  | some c =>
    rcases hsign c rfl with rfl | rfl
    · exact ⟨false, fun rest => rfl⟩
    · exact ⟨true, fun rest => rfl⟩

/-- A number is taken up, with the same outcome whatever follows. -/
def TakesUp (read : List Char → Except Error (Number × List Char)) (s : List Char) : Prop :=
  ∃ r : Except Error Number, ∀ rest, EndsNumber rest → read (s ++ rest) = r.map (·, rest)

section
variable (negative : Bool) (significand : Nat) (start : Int)

theorem readExponent_eq (s : List Char) : readExponent negative significand start s =
    readExponentDigits negative significand start (exponentSign s).1 (exponentSign s).2 :=
  rfl

theorem takesUp_readExponentDigits (isDown : Bool) (digits : Digits) :
    TakesUp (readExponentDigits negative significand start isDown) digits.chars := by
  obtain ⟨d, ds, hchars, hd, hds⟩ := digits.exists_cons
  obtain ⟨e?, left, hleft, hsome, htake⟩ := exists_takeExponent hds (d.toNat - '0'.toNat)
  rw [hchars]
  cases e? with
  | none =>
    by_cases hfault : (significand != 0 && !isDown) = true
    · refine ⟨.error .numberOutOfRange, fun rest hrest => ?_⟩
      simp only [List.cons_append, readExponentDigits, digit?_of_isDigit hd,
        htake rest hrest.isDigitNext, hfault, if_true]
      rfl
    · refine ⟨.ok (.double (if negative then -0.0 else 0.0)), fun rest hrest => ?_⟩
      simp only [List.cons_append, readExponentDigits, digit?_of_isDigit hd,
        htake rest hrest.isDigitNext, hfault, dropWhile_digits hleft hrest.isDigitNext]
      rfl
  | some e =>
    refine ⟨double negative significand (if isDown then start - e else start + e),
      fun rest hrest => ?_⟩
    simp only [List.cons_append, readExponentDigits, digit?_of_isDigit hd,
      htake rest hrest.isDigitNext, hsome rfl]
    rfl

theorem takesUp_readExponent (e : Exponent) :
    TakesUp (readExponent negative significand start) (e.sign.toList ++ e.digits.chars) := by
  obtain ⟨isDown, hsign⟩ := exponentSign_append e
  obtain ⟨r, hr⟩ := takesUp_readExponentDigits negative significand start isDown e.digits
  refine ⟨r, fun rest hrest => ?_⟩
  rw [readExponent_eq, hsign]
  exact hr rest hrest

/-! ## Reading -/

variable {negative significand start}

/-- After digits there may be an exponent. -/
theorem takesUp_of_exponent {f : List Char → Except Error (Number × List Char)}
    (hlower : ∀ s, f ('e' :: s) = readExponent negative significand start s)
    (hupper : ∀ s, f ('E' :: s) = readExponent negative significand start s)
    {r : Except Error Number} (hend : ∀ rest, EndsNumber rest → f rest = r.map (·, rest))
    (e? : Option Exponent) : TakesUp f ((e?.map Exponent.text).getD []) := by
  cases e? with
  | none => exact ⟨r, hend⟩
  | some e =>
    obtain ⟨r, hr⟩ := takesUp_readExponent negative significand start e
    refine ⟨r, fun rest hrest => ?_⟩
    obtain ⟨mark, sign, digits, rfl | rfl, hsign⟩ := e
    · exact (hlower _).trans (hr rest hrest)
    · exact (hupper _).trans (hr rest hrest)

theorem readScale_of_endsNumber {rest : List Char} (h : EndsNumber rest) :
    readScale negative significand start rest =
      (double negative significand start).map (·, rest) := by
  unfold readScale
  split
  · exact absurd rfl (h 'e' rfl).2.2.1
  · exact absurd rfl (h 'E' rfl).2.2.2
  · rfl

variable (negative significand start)

theorem takesUp_readScale (e? : Option Exponent) :
    TakesUp (readScale negative significand start) ((e?.map Exponent.text).getD []) :=
  takesUp_of_exponent (fun _ => rfl) (fun _ => rfl) (fun _ => readScale_of_endsNumber) e?

/-- An exponent, if there is one, is no more digits. -/
theorem isDigitNext_exponent (e? : Option Exponent) {rest : List Char} (hrest : EndsNumber rest) :
    isDigitNext ((e?.map Exponent.text).getD [] ++ rest) = false := by
  cases e? with
  | none => exact hrest.isDigitNext
  | some e =>
    show e.mark.isDigit = false
    rcases e.mark_eq with he | he
    · rw [he]; decide
    · rw [he]; decide

theorem takesUp_readFraction (digits : Digits) (e? : Option Exponent) :
    TakesUp (readFraction negative significand start)
      (digits.chars ++ (e?.map Exponent.text).getD []) := by
  obtain ⟨v, n, left, hleft, htake⟩ := exists_takeDigits digits.isDigit significand 0
  obtain ⟨r, hr⟩ := takesUp_readScale negative v (start - n) e?
  refine ⟨r, fun rest hrest => ?_⟩
  have hnext := isDigitNext_exponent e? hrest
  have hfirst : isDigitNext (digits.chars ++ ((e?.map Exponent.text).getD [] ++ rest)) = true := by
    obtain ⟨d, ds, hchars, hd, -⟩ := digits.exists_cons
    rw [hchars]
    exact hd
  rw [List.append_assoc, readFraction, hfirst, ← hr rest hrest]
  simp only [htake _ hnext, dropWhile_digits hleft hnext, Bool.not_true]
  rfl

end

/-- What is read after digits of which some do not fit. -/
def readAfterDigits (negative : Bool) (significand : Nat) (start : Int) :
    List Char → Except Error (Number × List Char)
  | '.' :: rest => readFraction negative significand start rest
  | rest => readScale negative significand start rest

/-- What is read after digits that fit. -/
def readAfterWhole (negative : Bool) (significand : Nat) (s : List Char) :
    Except Error (Number × List Char) :=
  match s with
  | '.' :: rest => readFraction negative significand 0 rest
  | 'e' :: rest | 'E' :: rest => readExponent negative significand 0 rest
  | _ => .ok (whole negative significand, s)

/-- What is read after the first digits, as many as fit. -/
def readContinued (negative : Bool) (significand : Nat) (rest : List Char) :
    Except Error (Number × List Char) :=
  if isDigitNext rest then
    readAfterDigits negative significand (rest.takeWhile Char.isDigit).length
      (rest.dropWhile Char.isDigit)
  else readAfterWhole negative significand rest

theorem readNumber_zero_cons (negative : Bool) (rest : List Char) :
    readNumber negative ('0' :: rest) =
      if isDigitNext rest then .error .invalidNumber else readContinued negative 0 rest :=
  rfl

theorem readNumber_cons {c : Char} {d : Nat} (hzero : c ≠ '0') (hd : digit? c = some d)
    (negative : Bool) (rest : List Char) : readNumber negative (c :: rest) =
      readContinued negative (takeDigits d 0 rest).1 (takeDigits d 0 rest).2.2 := by
  unfold readNumber
  split
  · next heq => cases heq
  · next heq => exact absurd (List.cons.inj heq).1 hzero
  · next heq =>
    cases heq
    rw [hd]
    rfl

/-- What stands after the digits is no digit. -/
theorem Numeral.isDigitNext_scale (n : Numeral) {rest : List Char} (hrest : EndsNumber rest) :
    isDigitNext (n.scale ++ rest) = false := by
  obtain ⟨isNegative, whole, fraction, exponent, -⟩ := n
  cases fraction with
  | none => exact isDigitNext_exponent exponent hrest
  | some f => rfl

theorem takeWhile_digits {ds rest : List Char} (hds : ∀ c ∈ ds, c.isDigit = true)
    (hrest : isDigitNext rest = false) : (ds ++ rest).takeWhile Char.isDigit = ds := by
  rw [List.takeWhile_append_of_pos hds]
  cases rest with
  | nil => rw [List.takeWhile_nil, List.append_nil]
  | cons c rest =>
    rw [List.takeWhile_cons_of_neg (by simp [show c.isDigit = false from hrest]), List.append_nil]

theorem takesUp_readAfterDigits (n : Numeral) (negative : Bool) (significand : Nat) (start : Int) :
    TakesUp (readAfterDigits negative significand start) n.scale := by
  obtain ⟨isNegative, whole, fraction, exponent, -⟩ := n
  cases fraction with
  | some f => exact takesUp_readFraction negative significand start f exponent
  | none =>
    refine takesUp_of_exponent (r := double negative significand start) (fun _ => rfl)
      (fun _ => rfl) (fun rest hrest => ?_) exponent
    rw [← readScale_of_endsNumber hrest]
    unfold readAfterDigits
    split
    · exact absurd rfl (hrest '.' rfl).2.1
    · rfl

theorem takesUp_readAfterWhole (n : Numeral) (negative : Bool) (significand : Nat) :
    TakesUp (readAfterWhole negative significand) n.scale := by
  obtain ⟨isNegative, whole, fraction, exponent, -⟩ := n
  cases fraction with
  | some f => exact takesUp_readFraction negative significand 0 f exponent
  | none =>
    refine takesUp_of_exponent (r := .ok (Json.whole negative significand)) (fun _ => rfl)
      (fun _ => rfl) (fun rest hrest => ?_) exponent
    unfold readAfterWhole
    split
    · exact absurd rfl (hrest '.' rfl).2.1
    · exact absurd rfl (hrest 'e' rfl).2.2.1
    · exact absurd rfl (hrest 'E' rfl).2.2.2
    · rfl

theorem takesUp_readContinued (n : Numeral) (negative : Bool) (significand : Nat) {left : List Char}
    (hleft : ∀ c ∈ left, c.isDigit = true) :
    TakesUp (readContinued negative significand) (left ++ n.scale) := by
  by_cases hne : left = []
  · subst hne
    obtain ⟨r, hr⟩ := takesUp_readAfterWhole n negative significand
    refine ⟨r, fun rest hrest => ?_⟩
    rw [List.nil_append, readContinued, if_neg (by simp [n.isDigitNext_scale hrest])]
    exact hr rest hrest
  · obtain ⟨d, ds, rfl⟩ := List.exists_cons_of_ne_nil hne
    obtain ⟨r, hr⟩ := takesUp_readAfterDigits n negative significand (d :: ds).length
    refine ⟨r, fun rest hrest => ?_⟩
    have hscale := n.isDigitNext_scale hrest
    have hnext : isDigitNext (d :: ds ++ (n.scale ++ rest)) = true :=
      (List.forall_mem_cons.mp hleft).1
    rw [List.append_assoc, readContinued, if_pos hnext, takeWhile_digits hleft hscale,
      dropWhile_digits hleft hscale]
    exact hr rest hrest

/-- **What is read of a number does not depend on what follows it.** -/
theorem takesUp_readNumber (n : Numeral) (negative : Bool) :
    TakesUp (readNumber negative) n.unsigned := by
  obtain ⟨d, ds, hwhole, hd, hds⟩ := n.whole.exists_cons
  by_cases hzero : d = '0'
  · have hplain := n.whole_plain (by rw [hwhole, hzero]; rfl)
    obtain ⟨r, hr⟩ := takesUp_readContinued n negative 0 (List.forall_mem_nil _)
    refine ⟨r, fun rest hrest => ?_⟩
    rw [Numeral.unsigned, hplain, List.singleton_append, List.cons_append, readNumber_zero_cons,
      if_neg (by simp [n.isDigitNext_scale hrest])]
    exact hr rest hrest
  · obtain ⟨v, taken, left, hleft, htake⟩ := exists_takeDigits hds (d.toNat - '0'.toNat) 0
    obtain ⟨r, hr⟩ := takesUp_readContinued n negative v hleft
    refine ⟨r, fun rest hrest => ?_⟩
    rw [Numeral.unsigned, hwhole, List.append_assoc, List.cons_append,
      readNumber_cons hzero (digit?_of_isDigit hd), htake _ (n.isDigitNext_scale hrest),
      ← List.append_assoc]
    exact hr rest hrest

/-! ## Passing over -/

/-- Passes over digits, of which there is at least one. -/
def skipDigits : List Char → Except Error (List Char)
  | c :: rest => if c.isDigit then .ok (rest.dropWhile Char.isDigit) else .error .invalidNumber
  | [] => .error .invalidNumber

theorem skipExponent_eq (s : List Char) : skipExponent s = skipDigits (exponentSign s).2 := by
  cases s with
  | nil => rfl
  | cons c s =>
    by_cases hplus : c = '+'
    · subst hplus
      rfl
    · by_cases hminus : c = '-'
      · subst hminus
        rfl
      · simp [skipExponent, exponentSign, skipDigits, hplus, hminus]

theorem skipDigits_append (ds : Digits) {rest : List Char} (hrest : isDigitNext rest = false) :
    skipDigits (ds.chars ++ rest) = .ok rest := by
  obtain ⟨d, more, hchars, hd, hmore⟩ := ds.exists_cons
  rw [hchars, List.cons_append, skipDigits, if_pos hd, dropWhile_digits hmore hrest]

theorem skipExponent_append (e : Exponent) {rest : List Char} (hrest : EndsNumber rest) :
    skipExponent (e.sign.toList ++ e.digits.chars ++ rest) = .ok rest := by
  obtain ⟨isDown, hsign⟩ := exponentSign_append e
  rw [skipExponent_eq, hsign, skipDigits_append e.digits hrest.isDigitNext]

/-- Passes over an exponent, if there is one. -/
def skipScale : List Char → Except Error (List Char)
  | 'e' :: rest | 'E' :: rest => skipExponent rest
  | rest => .ok rest

/-- Passes over what may follow the digits of a number. -/
def skipAfterWhole : List Char → Except Error (List Char)
  | '.' :: rest => skipFraction rest
  | 'e' :: rest | 'E' :: rest => skipExponent rest
  | rest => .ok rest

theorem skipFraction_eq (s : List Char) :
    skipFraction s = skipDigits s >>= skipScale := by
  cases s with
  | nil => rfl
  | cons c s =>
    by_cases hc : c.isDigit = true
    · simp only [skipFraction, skipDigits, hc, if_true]
      rfl
    · simp only [skipFraction, skipDigits, hc]
      rfl

theorem skipNumber_zero_cons {s : List Char} (h : isDigitNext s = false) :
    skipNumber ('0' :: s) = skipAfterWhole s := by
  cases s with
  | nil => rfl
  | cons c s =>
    have hc : c.isDigit = false := h
    simp only [skipNumber, hc]
    rfl

theorem skipNumber_cons {c : Char} (hzero : c ≠ '0') (s : List Char) :
    skipNumber (c :: s) = skipDigits (c :: s) >>= skipAfterWhole := by
  unfold skipNumber
  split
  · next heq => exact absurd (List.cons.inj heq).1 hzero
  · next heq =>
    cases heq
    by_cases hc : c.isDigit = true
    · simp only [skipDigits, hc, if_true]
      rfl
    · simp only [skipDigits, hc]
      rfl
  · next heq => cases heq

theorem skipAfterWhole_cases (s : List Char) :
    (∃ t, s = '.' :: t ∧ skipAfterWhole s = skipFraction t) ∨
      s.head? ≠ some '.' ∧ skipAfterWhole s = skipScale s := by
  unfold skipAfterWhole
  split
  · next t => exact .inl ⟨t, rfl, rfl⟩
  · exact .inr ⟨by simp, rfl⟩
  · exact .inr ⟨by simp, rfl⟩
  · next hdot he hE =>
    refine .inr ⟨fun h => ?_, ?_⟩
    · obtain ⟨t, rfl⟩ := List.head?_eq_some_iff.mp h
      exact hdot t rfl
    · unfold skipScale
      split
      · exact absurd rfl (he _)
      · exact absurd rfl (hE _)
      · rfl

theorem skipScale_append (e? : Option Exponent) {rest : List Char} (hrest : EndsNumber rest) :
    skipScale ((e?.map Exponent.text).getD [] ++ rest) = .ok rest := by
  cases e? with
  | none =>
    show skipScale rest = .ok rest
    unfold skipScale
    split
    · exact absurd rfl (hrest 'e' rfl).2.2.1
    · exact absurd rfl (hrest 'E' rfl).2.2.2
    · rfl
  | some e =>
    have hskip := skipExponent_append e hrest
    obtain ⟨mark, sign, digits, rfl | rfl, hsign⟩ := e
    · exact hskip
    · exact hskip

theorem skipAfterWhole_scale (n : Numeral) {rest : List Char} (hrest : EndsNumber rest) :
    skipAfterWhole (n.scale ++ rest) = .ok rest := by
  obtain ⟨isNegative, whole, fraction, exponent, -⟩ := n
  have hskip := skipScale_append exponent hrest
  cases fraction with
  | some f =>
    show skipFraction (f.chars ++ (exponent.map Exponent.text).getD [] ++ rest) = .ok rest
    rw [skipFraction_eq, List.append_assoc,
      skipDigits_append f (isDigitNext_exponent exponent hrest)]
    exact hskip
  | none =>
    cases exponent with
    | some e =>
      obtain ⟨mark, sign, digits, rfl | rfl, hsign⟩ := e
      · exact hskip
      · exact hskip
    | none =>
      rcases skipAfterWhole_cases rest with ⟨t, rfl, -⟩ | ⟨-, hscale⟩
      · exact absurd rfl (hrest '.' rfl).2.1
      · exact hscale.trans hskip

theorem skipNumber_append (n : Numeral) {rest : List Char} (hrest : EndsNumber rest) :
    skipNumber (n.unsigned ++ rest) = .ok rest := by
  obtain ⟨d, ds, hwhole, hd, hds⟩ := n.whole.exists_cons
  have hscale := n.isDigitNext_scale hrest
  rw [Numeral.unsigned, List.append_assoc]
  by_cases hzero : d = '0'
  · rw [n.whole_plain (by rw [hwhole, hzero]; rfl), List.singleton_append,
      skipNumber_zero_cons hscale, skipAfterWhole_scale n hrest]
  · have hskip := skipDigits_append n.whole hscale
    rw [hwhole, List.cons_append] at hskip ⊢
    rw [skipNumber_cons hzero, hskip]
    exact skipAfterWhole_scale n hrest

/-! ## Nothing else -/

section
variable {s rest : List Char}

theorem exists_of_skipDigits (h : skipDigits s = .ok rest) :
    ∃ ds : Digits, s = ds.chars ++ rest := by
  cases s with
  | nil => cases h
  | cons c s =>
    by_cases hc : c.isDigit = true
    · rw [skipDigits, if_pos hc] at h
      cases h
      refine ⟨⟨c :: s.takeWhile Char.isDigit, by simp, ?_⟩, ?_⟩
      · exact List.forall_mem_cons.mpr ⟨hc, fun d => List.mem_takeWhile_imp⟩
      · rw [List.cons_append, List.takeWhile_append_dropWhile]
    · rw [skipDigits, if_neg hc] at h
      cases h

theorem exists_of_exponentSign (s : List Char) : ∃ sign : Option Char,
    (∀ c ∈ sign, c = '+' ∨ c = '-') ∧ s = sign.toList ++ (exponentSign s).2 := by
  unfold exponentSign
  split
  · exact ⟨some '+', by simp, rfl⟩
  · exact ⟨some '-', by simp, rfl⟩
  · exact ⟨none, by simp, rfl⟩

theorem exists_of_skipExponent {mark : Char} (hmark : mark = 'e' ∨ mark = 'E')
    (h : skipExponent s = .ok rest) : ∃ e : Exponent, mark :: s = e.text ++ rest := by
  rw [skipExponent_eq] at h
  obtain ⟨ds, hds⟩ := exists_of_skipDigits h
  obtain ⟨sign, hsign, hs⟩ := exists_of_exponentSign s
  rw [hds] at hs
  exact ⟨⟨mark, sign, ds, hmark, hsign⟩, by simp [Exponent.text, hs]⟩

theorem exists_of_skipScale (h : skipScale s = .ok rest) :
    ∃ e? : Option Exponent, s = (e?.map Exponent.text).getD [] ++ rest := by
  unfold skipScale at h
  split at h
  · obtain ⟨e, he⟩ := exists_of_skipExponent (.inl rfl) h
    exact ⟨some e, he⟩
  · obtain ⟨e, he⟩ := exists_of_skipExponent (.inr rfl) h
    exact ⟨some e, he⟩
  · cases h
    exact ⟨none, rfl⟩

theorem exists_of_skipAfterWhole (h : skipAfterWhole s = .ok rest) :
    ∃ (f? : Option Digits) (e? : Option Exponent),
      s = (f?.map fun f => '.' :: f.chars).getD [] ++ (e?.map Exponent.text).getD [] ++ rest := by
  rcases skipAfterWhole_cases s with ⟨t, rfl, ht⟩ | ⟨-, hs⟩
  · rw [ht, skipFraction_eq] at h
    obtain ⟨u, hu, hrest⟩ := bind_ok_iff.mp h
    obtain ⟨f, rfl⟩ := exists_of_skipDigits hu
    obtain ⟨e?, rfl⟩ := exists_of_skipScale hrest
    exact ⟨some f, e?, by simp⟩
  · rw [hs] at h
    obtain ⟨e?, rfl⟩ := exists_of_skipScale h
    exact ⟨none, e?, rfl⟩

/-- **Only numbers are passed over.** -/
theorem exists_of_skipNumber (isNegative : Bool) (h : skipNumber s = .ok rest) :
    ∃ n : Numeral, n.isNegative = isNegative ∧ s = n.unsigned ++ rest := by
  cases s with
  | nil => cases h
  | cons c s =>
    by_cases hzero : c = '0'
    · subst hzero
      have hnext : isDigitNext s = false := by
        cases s with
        | nil => rfl
        | cons c s =>
          by_contra hc
          have hc : c.isDigit = true := Bool.eq_true_of_not_eq_false hc
          simp [skipNumber, hc] at h
      rw [skipNumber_zero_cons hnext] at h
      obtain ⟨f?, e?, rfl⟩ := exists_of_skipAfterWhole h
      exact ⟨⟨isNegative, ⟨['0'], by simp, by simp⟩, f?, e?, fun _ => rfl⟩, rfl, by
        simp [Numeral.unsigned, Numeral.scale]⟩
    · rw [skipNumber_cons hzero] at h
      obtain ⟨u, hu, hrest⟩ := bind_ok_iff.mp h
      obtain ⟨ds, hds⟩ := exists_of_skipDigits hu
      obtain ⟨f?, e?, rfl⟩ := exists_of_skipAfterWhole hrest
      refine ⟨⟨isNegative, ds, f?, e?, fun hhead => ?_⟩, rfl, ?_⟩
      · have hc := congrArg List.head? hds
        rw [List.head?_append, hhead] at hc
        exact absurd (Option.some.inj hc) hzero
      · simp [Numeral.unsigned, Numeral.scale, hds]

/-! ## What is read is passed over -/

variable {negative : Bool} {significand : Nat} {start : Int} {x : Number}

theorem dropWhile_takeDigits (s : List Char) : ∀ significand taken,
    (takeDigits significand taken s).2.2.dropWhile Char.isDigit = s.dropWhile Char.isDigit := by
  induction s with
  | nil => exact fun _ _ => rfl
  | cons c s ih =>
    intro significand taken
    unfold takeDigits
    split
    · rfl
    · next d hd =>
      split
      · rfl
      · rw [ih, List.dropWhile_cons_of_pos (Text.isDigit_of_digitValue? hd)]

theorem dropWhile_takeExponent (s : List Char) : ∀ value,
    (takeExponent value s).2.dropWhile Char.isDigit = s.dropWhile Char.isDigit ∧
      ((takeExponent value s).1.isSome = true → isDigitNext (takeExponent value s).2 = false) := by
  induction s with
  | nil => exact fun _ => ⟨rfl, fun _ => rfl⟩
  | cons c s ih =>
    intro value
    unfold takeExponent
    split
    · next hd =>
      refine ⟨rfl, fun _ => Bool.eq_false_of_not_eq_true fun hc => ?_⟩
      rw [digit?_of_isDigit hc] at hd
      cases hd
    · next d hd =>
      rw [List.dropWhile_cons_of_pos (Text.isDigit_of_digitValue? hd)]
      split
      · exact ⟨rfl, nofun⟩
      · exact ih _

theorem skipExponent_of_read (h : readExponent negative significand start s = .ok (x, rest)) :
    skipExponent s = .ok rest := by
  rw [readExponent_eq] at h
  rw [skipExponent_eq]
  unfold readExponentDigits at h
  split at h
  · cases h
  · next c t hs =>
    split at h
    · cases h
    · next d hd =>
      obtain ⟨hdrop, hsome⟩ := dropWhile_takeExponent t d
      rw [hs, skipDigits, if_pos (Text.isDigit_of_digitValue? hd), ← hdrop]
      split at h
      · next left htake =>
        rw [htake]
        split at h
        · cases h
        · cases h
          rfl
      · next e left htake =>
        obtain ⟨y, -, hy⟩ := bind_ok_iff.mp h
        cases hy
        rw [htake] at hsome ⊢
        exact congrArg Except.ok (dropWhile_of_isDigitNext (hsome rfl))

theorem skipScale_of_read (h : readScale negative significand start s = .ok (x, rest)) :
    skipScale s = .ok rest := by
  unfold readScale at h
  split at h
  · exact skipExponent_of_read h
  · exact skipExponent_of_read h
  · next he hE =>
    obtain ⟨y, -, hy⟩ := bind_ok_iff.mp h
    cases hy
    unfold skipScale
    split
    · exact absurd rfl (he _)
    · exact absurd rfl (hE _)
    · rfl

theorem skipFraction_of_read (h : readFraction negative significand start s = .ok (x, rest)) :
    skipFraction s = .ok rest := by
  rw [skipFraction_eq]
  unfold readFraction at h
  cases s with
  | nil => cases h
  | cons c s =>
    by_cases hc : c.isDigit = true
    · have hnext : isDigitNext (c :: s) = true := hc
      rw [hnext] at h
      have hskip : skipScale ((takeDigits significand 0 (c :: s)).2.2.dropWhile Char.isDigit) =
          .ok rest := skipScale_of_read h
      rw [dropWhile_takeDigits, List.dropWhile_cons_of_pos hc] at hskip
      rw [skipDigits, if_pos hc]
      exact hskip
    · have hnext : isDigitNext (c :: s) = false := Bool.eq_false_of_not_eq_true hc
      rw [hnext] at h
      cases h

theorem skipAfterWhole_of_readAfterDigits
    (h : readAfterDigits negative significand start s = .ok (x, rest)) :
    skipAfterWhole s = .ok rest := by
  rcases skipAfterWhole_cases s with ⟨t, rfl, ht⟩ | ⟨hhead, hs⟩
  · rw [ht]
    exact skipFraction_of_read h
  · rw [hs]
    unfold readAfterDigits at h
    split at h
    · exact absurd rfl hhead
    · exact skipScale_of_read h

theorem skipAfterWhole_of_readAfterWhole
    (h : readAfterWhole negative significand s = .ok (x, rest)) :
    skipAfterWhole s = .ok rest := by
  unfold readAfterWhole at h
  split at h
  · exact skipFraction_of_read h
  · exact skipExponent_of_read h
  · exact skipExponent_of_read h
  · next hdot he hE =>
    cases h
    unfold skipAfterWhole
    split
    · exact absurd rfl (hdot _)
    · exact absurd rfl (he _)
    · exact absurd rfl (hE _)
    · rfl

theorem skipAfterWhole_of_readContinued (h : readContinued negative significand s = .ok (x, rest)) :
    skipAfterWhole (s.dropWhile Char.isDigit) = .ok rest := by
  unfold readContinued at h
  split at h
  · exact skipAfterWhole_of_readAfterDigits h
  · next hnext =>
    rw [dropWhile_of_isDigitNext (Bool.eq_false_of_not_eq_true hnext)]
    exact skipAfterWhole_of_readAfterWhole h

theorem skipNumber_of_read (h : readNumber negative s = .ok (x, rest)) :
    skipNumber s = .ok rest := by
  cases s with
  | nil => cases h
  | cons c s =>
    by_cases hzero : c = '0'
    · subst hzero
      rw [readNumber_zero_cons] at h
      split at h
      · cases h
      · next hnext =>
        have hnext := Bool.eq_false_of_not_eq_true hnext
        rw [skipNumber_zero_cons hnext]
        have hskip := skipAfterWhole_of_readContinued h
        rwa [dropWhile_of_isDigitNext hnext] at hskip
    · cases hd : digit? c with
      | none =>
        simp only [readNumber, hd] at h
        cases h
      | some d =>
        rw [readNumber_cons hzero hd] at h
        have hskip := skipAfterWhole_of_readContinued h
        rw [dropWhile_takeDigits] at hskip
        rw [skipNumber_cons hzero, skipDigits, if_pos (Text.isDigit_of_digitValue? hd)]
        exact hskip

/-- **Only numbers are read.** -/
theorem exists_of_readNumber (isNegative : Bool) (h : readNumber negative s = .ok (x, rest)) :
    ∃ n : Numeral, n.isNegative = isNegative ∧ s = n.unsigned ++ rest :=
  exists_of_skipNumber isNegative (skipNumber_of_read h)

end

end ProxyRouting.Json
