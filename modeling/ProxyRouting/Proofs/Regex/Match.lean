import Mathlib.Data.Finset.Card
import Mathlib.Data.Finset.Range
import ProxyRouting.Regex.Match

/-!
# What the matcher finds

The matcher works on sets of positions, each the bits of a number.  Of every expression whose
repetitions have their bounds in order (`InOrder`) it finds the ends of just those matches that the
meaning of the expression has:

    j ∈ ends (onText text r) S ↔ ∃ i ∈ S, r.Matches text i j                       (ends_iff)
    isMatch r text ↔ ∃ i j, i ≤ text.length ∧ r.Matches text i j                     (isMatch_iff)

A repetition is a search by breadth.  `fresh` holds the positions whose followers are still to be
found, so all others of `found` have theirs in `found` already; that is what `spread` keeps.  Without
an upper bound the search ends since every round but the last finds a new position.
-/

namespace ProxyRouting.Regex

/-! ## Functions on sets of positions -/

/-- All positions of the set are those of a text with so many characters. -/
def Within (len s : Nat) : Prop :=
  ∀ i, s.testBit i = true → i ≤ len

/-- The function leads from every set of positions to the positions that the steps from it lead
to. -/
def Follows (len : Nat) (f : Nat → Nat) (step : Nat → Nat → Prop) : Prop :=
  ∀ s, Within len s → ∀ j, (f s).testBit j = true ↔ ∃ i, s.testBit i = true ∧ step i j

/-- The steps stay within the text. -/
def StaysWithin (len : Nat) (step : Nat → Nat → Prop) : Prop :=
  ∀ i j, i ≤ len → step i j → j ≤ len

section

variable {len : Nat} {f : Nat → Nat} {step : Nat → Nat → Prop}

theorem StaysWithin.rounds (h : StaysWithin len step) (n : Nat) :
    StaysWithin len (Rounds step n) := by
  induction n with
  | zero =>
    intro i j hi hr
    obtain rfl : i = j := hr
    exact hi
  | succ n ih =>
    rintro i k hi ⟨j, hij, hjk⟩
    exact ih j k (h i j hi hij) hjk

theorem Rounds.append {m n i j k : Nat} (hij : Rounds step m i j) (hjk : Rounds step n j k) :
    Rounds step (m + n) i k := by
  induction m generalizing i with
  | zero =>
    obtain rfl : i = j := hij
    rwa [Nat.zero_add]
  | succ m ih =>
    obtain ⟨i', hi, hi'⟩ := hij
    rw [Nat.succ_add]
    exact ⟨i', hi, ih hi'⟩

theorem Rounds.split {m n i k : Nat} (h : Rounds step (m + n) i k) :
    ∃ j, Rounds step m i j ∧ Rounds step n j k := by
  induction m generalizing i with
  | zero =>
    rw [Nat.zero_add] at h
    exact ⟨i, rfl, h⟩
  | succ m ih =>
    rw [Nat.succ_add] at h
    obtain ⟨i', hi, hi'⟩ := h
    obtain ⟨j, hij, hjk⟩ := ih hi'
    exact ⟨j, ⟨i', hi, hij⟩, hjk⟩

theorem Follows.within (hf : Follows len f step) (hstep : StaysWithin len step) {s : Nat}
    (hs : Within len s) : Within len (f s) := by
  intro j hj
  obtain ⟨i, hi, hij⟩ := (hf s hs j).mp hj
  exact hstep i j (hs i hi) hij

/-! ## So many rounds -/

/-- From a set that leads to itself no number of rounds leads elsewhere. -/
theorem rounds_of_fixed (hf : Follows len f step) {s : Nat} (hs : Within len s) (hfix : f s = s)
    (n j : Nat) : s.testBit j = true ↔ ∃ i, s.testBit i = true ∧ Rounds step n i j := by
  induction n generalizing j with
  | zero => exact ⟨fun hj => ⟨j, hj, rfl⟩, fun ⟨i, hi, hij⟩ => hij ▸ hi⟩
  | succ n ih =>
    rw [ih j]
    constructor
    · rintro ⟨k, hk, hkj⟩
      rw [← hfix] at hk
      obtain ⟨i, hi, hik⟩ := (hf s hs k).mp hk
      exact ⟨i, hi, k, hik, hkj⟩
    · rintro ⟨i, hi, k, hik, hkj⟩
      refine ⟨k, ?_, hkj⟩
      rw [← hfix]
      exact (hf s hs k).mpr ⟨i, hi, hik⟩

theorem times_iff (hf : Follows len f step) (hstep : StaysWithin len step) (n : Nat) :
    Follows len (times f n) (Rounds step n) := by
  induction n with
  | zero =>
    intro s _ j
    exact ⟨fun hj => ⟨j, hj, rfl⟩, fun ⟨i, hi, hij⟩ => hij ▸ hi⟩
  | succ n ih =>
    intro s hs j
    by_cases hfix : f s = s
    · have htimes : times f (n + 1) s = s := by simp [times, hfix]
      rw [htimes]
      exact rounds_of_fixed hf hs hfix (n + 1) j
    · have htimes : times f (n + 1) s = times f n (f s) := by simp [times, hfix]
      rw [htimes, ih (f s) (hf.within hstep hs) j]
      constructor
      · rintro ⟨k, hk, hkj⟩
        obtain ⟨i, hi, hik⟩ := (hf s hs k).mp hk
        exact ⟨i, hi, k, hik, hkj⟩
      · rintro ⟨i, hi, k, hik, hkj⟩
        exact ⟨k, (hf s hs k).mpr ⟨i, hi, hik⟩, hkj⟩

/-! ## Up to so many rounds -/

/-- At most so many steps. -/
def AtMost (step : Nat → Nat → Prop) (n i j : Nat) : Prop :=
  ∃ m, m ≤ n ∧ Rounds step m i j

/-- What is kept while positions spread: those that are fresh are found, and all that follow the
others are found. -/
structure Spreading (len : Nat) (step : Nat → Nat → Prop) (found fresh : Nat) : Prop where
  within : Within len found
  fresh_found : ∀ i, fresh.testBit i = true → found.testBit i = true
  followed : ∀ i j, found.testBit i = true → step i j →
    found.testBit j = true ∨ fresh.testBit i = true

/-- What one round finds that was not found yet. -/
def unseen (f : Nat → Nat) (found fresh : Nat) : Nat :=
  f fresh ^^^ (f fresh &&& found)

theorem testBit_unseen (f : Nat → Nat) (found fresh j : Nat) :
    (unseen f found fresh).testBit j = true ↔
      (f fresh).testBit j = true ∧ found.testBit j = false := by
  unfold unseen
  rw [Nat.testBit_xor, Nat.testBit_and]
  cases (f fresh).testBit j <;> cases found.testBit j <;> decide

theorem spread_succ_of_none {found fresh : Nat} (h : unseen f found fresh = 0) (n : Nat) :
    spread f (n + 1) found fresh = found := by
  unfold unseen at h
  simp [spread, h]

theorem spread_succ_of_some {found fresh : Nat} (h : unseen f found fresh ≠ 0) (n : Nat) :
    spread f (n + 1) found fresh =
      spread f n (found ||| unseen f found fresh) (unseen f found fresh) := by
  unfold unseen at h ⊢
  simp [spread, h]

namespace Spreading

variable {found fresh : Nat}

theorem fresh_within (h : Spreading len step found fresh) : Within len fresh :=
  fun i hi => h.within i (h.fresh_found i hi)

/-- What follows a position that is found is found now or in the next round. -/
theorem next (h : Spreading len step found fresh) (hf : Follows len f step) {i j : Nat}
    (hi : found.testBit i = true) (hij : step i j) :
    found.testBit j = true ∨ (unseen f found fresh).testBit j = true := by
  rcases h.followed i j hi hij with hj | hfresh
  · exact .inl hj
  · have hj := (hf fresh h.fresh_within j).mpr ⟨i, hfresh, hij⟩
    cases hfound : found.testBit j with
    | true => exact .inl rfl
    | false => exact .inr ((testBit_unseen f found fresh j).mpr ⟨hj, hfound⟩)

theorem closed_of_none (h : Spreading len step found fresh) (hf : Follows len f step)
    (hnone : unseen f found fresh = 0) {i j : Nat} (hi : found.testBit i = true)
    (hij : step i j) : found.testBit j = true := by
  rcases h.next hf hi hij with hj | hj
  · exact hj
  · rw [hnone, Nat.zero_testBit] at hj
    cases hj

/-- One round keeps it. -/
theorem round (h : Spreading len step found fresh) (hf : Follows len f step)
    (hstep : StaysWithin len step) :
    Spreading len step (found ||| unseen f found fresh) (unseen f found fresh) where
  within := by
    intro i hi
    rw [Nat.testBit_or, Bool.or_eq_true] at hi
    rcases hi with hi | hi
    · exact h.within i hi
    · exact hf.within hstep h.fresh_within i ((testBit_unseen f found fresh i).mp hi).1
  fresh_found := by
    intro i hi
    rw [Nat.testBit_or, hi, Bool.or_true]
  followed := by
    intro i j hi hij
    rw [Nat.testBit_or, Bool.or_eq_true] at hi
    rcases hi with hi | hi
    · left
      rw [Nat.testBit_or, Bool.or_eq_true]
      exact h.next hf hi hij
    · exact .inr hi

/-- The search finds what up to so many rounds lead to. -/
theorem spread_iff (hf : Follows len f step) (hstep : StaysWithin len step) (n : Nat) :
    ∀ {found fresh : Nat}, Spreading len step found fresh → ∀ j,
      (spread f n found fresh).testBit j = true ↔
        ∃ i, found.testBit i = true ∧ AtMost step n i j := by
  induction n with
  | zero =>
    intro found fresh _ j
    constructor
    · exact fun hj => ⟨j, hj, 0, Nat.le_refl 0, rfl⟩
    · rintro ⟨i, hi, m, hm, hij⟩
      obtain rfl := Nat.le_zero.mp hm
      exact hij ▸ hi
  | succ n ih =>
    intro found fresh h j
    by_cases hnone : unseen f found fresh = 0
    · rw [spread_succ_of_none hnone]
      constructor
      · exact fun hj => ⟨j, hj, 0, Nat.zero_le _, rfl⟩
      · rintro ⟨i, hi, m, -, hij⟩
        induction m generalizing i with
        | zero => exact hij ▸ hi
        | succ m ihm =>
          obtain ⟨k, hik, hkj⟩ := hij
          exact ihm k (h.closed_of_none hf hnone hi hik) hkj
    · rw [spread_succ_of_some hnone, ih (h.round hf hstep) j]
      constructor
      · rintro ⟨i, hi, m, hm, hij⟩
        rw [Nat.testBit_or, Bool.or_eq_true] at hi
        rcases hi with hi | hi
        · exact ⟨i, hi, m, Nat.le_succ_of_le hm, hij⟩
        · obtain ⟨k, hk, hki⟩ := (hf fresh h.fresh_within i).mp
            ((testBit_unseen f found fresh i).mp hi).1
          exact ⟨k, h.fresh_found k hk, m + 1, Nat.succ_le_succ hm, i, hki, hij⟩
      · rintro ⟨i, hi, m, hm, hij⟩
        cases m with
        | zero =>
          refine ⟨i, ?_, 0, Nat.zero_le n, hij⟩
          rw [Nat.testBit_or, hi, Bool.true_or]
        | succ m =>
          obtain ⟨k, hik, hkj⟩ := hij
          refine ⟨k, ?_, m, Nat.le_of_succ_le_succ hm, hkj⟩
          rw [Nat.testBit_or, Bool.or_eq_true]
          exact h.next hf hi hik

end Spreading

/-! ## Any number of rounds -/

/-- The positions of a text that are not found. -/
def missing (len found : Nat) : Finset Nat :=
  (Finset.range (len + 1)).filter fun i => found.testBit i = false

theorem missing_card_le (len found : Nat) : (missing len found).card ≤ len + 1 := by
  have := Finset.card_filter_le (Finset.range (len + 1)) fun i => found.testBit i = false
  rwa [Finset.card_range] at this

/-- A round that finds something leaves less to be found. -/
theorem missing_card_lt {found new : Nat} (hnew : new ≠ 0) (hwithin : Within len new)
    (hunseen : ∀ i, new.testBit i = true → found.testBit i = false) :
    (missing len (found ||| new)).card < (missing len found).card := by
  obtain ⟨i, hi⟩ := Nat.exists_testBit_of_ne_zero hnew
  refine Finset.card_lt_card (Finset.ssubset_iff_of_subset ?_ |>.mpr ⟨i, ?_, ?_⟩)
  · intro j hj
    rw [missing, Finset.mem_filter, Nat.testBit_or, Bool.or_eq_false_iff] at hj
    exact Finset.mem_filter.mpr ⟨hj.1, hj.2.1⟩
  · exact Finset.mem_filter.mpr
      ⟨Finset.mem_range.mpr (Nat.lt_succ_of_le (hwithin i hi)), hunseen i hi⟩
  · rw [missing, Finset.mem_filter, Nat.testBit_or, hi, Bool.or_true]
    exact fun h => Bool.noConfusion h.2

/-- With as many rounds as positions are missing the search finds all that steps lead to. -/
theorem Spreading.spread_closed (hf : Follows len f step) (hstep : StaysWithin len step) (n : Nat) :
    ∀ {found fresh : Nat}, Spreading len step found fresh → (missing len found).card ≤ n →
      ∀ i j, (spread f n found fresh).testBit i = true → step i j →
        (spread f n found fresh).testBit j = true := by
  induction n with
  | zero =>
    intro found fresh h hcard i j hi hij
    have hempty : missing len found = ∅ := Finset.card_eq_zero.mp (Nat.le_zero.mp hcard)
    have hj : j ≤ len := hstep i j (h.within i hi) hij
    show found.testBit j = true
    apply Classical.byContradiction
    intro hnot
    have : j ∈ missing len found := Finset.mem_filter.mpr
      ⟨Finset.mem_range.mpr (Nat.lt_succ_of_le hj), by simpa using hnot⟩
    rw [hempty] at this
    exact Finset.notMem_empty j this
  | succ n ih =>
    intro found fresh h hcard i j hi hij
    by_cases hnone : unseen f found fresh = 0
    · rw [spread_succ_of_none hnone] at hi ⊢
      exact h.closed_of_none hf hnone hi hij
    · have hround := h.round hf hstep
      have hless : (missing len (found ||| unseen f found fresh)).card < (missing len found).card :=
        missing_card_lt hnone (fun k hk => hround.fresh_within k hk) fun k hk =>
          ((testBit_unseen f found fresh k).mp hk).2
      rw [spread_succ_of_some hnone] at hi ⊢
      exact ih hround (by omega) i j hi hij

/-- Nothing is found beforehand, so that all that is found is fresh. -/
theorem spreading_start {s : Nat} (hs : Within len s) : Spreading len step s s :=
  ⟨hs, fun _ hi => hi, fun _ _ hi _ => .inr hi⟩

theorem spread_all_iff (hf : Follows len f step) (hstep : StaysWithin len step) {s : Nat}
    (hs : Within len s) (j : Nat) :
    (spread f (len + 1) s s).testBit j = true ↔
      ∃ i, s.testBit i = true ∧ ∃ n, Rounds step n i j := by
  have hstart : Spreading len step s s := spreading_start hs
  constructor
  · intro hj
    obtain ⟨i, hi, n, -, hij⟩ := (hstart.spread_iff hf hstep (len + 1) j).mp hj
    exact ⟨i, hi, n, hij⟩
  · rintro ⟨i, hi, n, hij⟩
    have hmem : (spread f (len + 1) s s).testBit i = true :=
      (hstart.spread_iff hf hstep (len + 1) i).mpr ⟨i, hi, 0, Nat.zero_le _, rfl⟩
    clear hi
    induction n generalizing i with
    | zero => exact hij ▸ hmem
    | succ n ih =>
      obtain ⟨k, hik, hkj⟩ := hij
      exact ih k hkj
        (hstart.spread_closed hf hstep (len + 1) (missing_card_le len s) i k hmem hik)

end

/-! ## Positions of a text -/

theorem testBit_double_zero (x : Nat) (b : Bool) :
    (2 * x + if b then 1 else 0).testBit 0 = b := by
  rw [Nat.testBit_zero]
  cases b with
  | true => simp
  | false => simp

theorem testBit_double_succ (x : Nat) (b : Bool) (i : Nat) :
    (2 * x + if b then 1 else 0).testBit (i + 1) = x.testBit i := by
  have hhalf : (2 * x + if b then 1 else 0) / 2 = x := by
    split
    · omega
    · omega
  rw [Nat.testBit_succ, hhalf]

theorem testBit_followedBy (p : Char → Bool) (text : List Char) (i : Nat) :
    (followedBy p text).testBit i = text[i]?.any p := by
  induction text generalizing i with
  | nil => simp [followedBy]
  | cons c rest ih =>
    rw [followedBy]
    cases i with
    | zero => exact testBit_double_zero _ _
    | succ i => exact (testBit_double_succ _ _ i).trans (ih i)

theorem testBit_heldAt (l : Look) (before : Option Char) (text : List Char) (i : Nat) :
    (heldAt l before text).testBit i = true ↔ i ≤ text.length ∧
      l.holds (if i = 0 then before else text[i - 1]?) text[i]? = true := by
  induction text generalizing before i with
  | nil =>
    rw [heldAt]
    have hbit := testBit_double_zero 0 (l.holds before none)
    rw [Nat.mul_zero, Nat.zero_add] at hbit
    cases i with
    | zero => simp [hbit]
    | succ i =>
      have hnext := testBit_double_succ 0 (l.holds before none) i
      rw [Nat.mul_zero, Nat.zero_add, Nat.zero_testBit] at hnext
      simp [hnext]
  | cons c rest ih =>
    rw [heldAt]
    cases i with
    | zero =>
      rw [testBit_double_zero]
      simp
    | succ i =>
      rw [testBit_double_succ, ih]
      cases i with
      | zero => simp
      | succ i => simp

/-! ## Expressions -/

/-- The bounds of every repetition are in order. -/
def InOrder : Regex → Prop
  | seq a b => a.InOrder ∧ b.InOrder
  | alt a b => a.InOrder ∧ b.InOrder
  | rep min max body => (∀ m, max = some m → min ≤ m) ∧ body.InOrder
  | capture body => body.InOrder
  | empty | char _ | set _ | look _ => True

theorem matches_staysWithin (text : List Char) (r : Regex) :
    StaysWithin text.length (r.Matches text) := by
  induction r with
  | empty =>
    intro i j hi hij
    exact hij ▸ hi
  | char c =>
    rintro i j - ⟨hc, rfl⟩
    exact (List.getElem?_eq_some_iff.mp hc).1
  | set s =>
    rintro i j - ⟨⟨c, hc, -⟩, rfl⟩
    exact (List.getElem?_eq_some_iff.mp hc).1
  | look l =>
    rintro i j hi ⟨-, rfl⟩
    exact hi
  | seq a b iha ihb =>
    rintro i k hi ⟨j, hij, hjk⟩
    exact ihb j k (iha i j hi hij) hjk
  | alt a b iha ihb =>
    rintro i j hi (hij | hij)
    · exact iha i j hi hij
    · exact ihb i j hi hij
  | rep min max body ih =>
    rintro i j hi ⟨n, -, -, hij⟩
    exact ih.rounds n i j hi hij
  | capture body ih => exact ih

/-- Taking a character leads from each position that it follows to the next. -/
theorem ends_take (p : Char → Bool) (text : List Char) (positions s j : Nat) :
    ((Scan.take (followedBy p text)).ends positions s).testBit j = true ↔
      ∃ i, s.testBit i = true ∧ (∃ c, text[i]? = some c ∧ p c = true) ∧ j = i + 1 := by
  rw [Scan.ends, Nat.testBit_shiftLeft, Bool.and_eq_true, Nat.testBit_and, Bool.and_eq_true,
    testBit_followedBy, decide_eq_true_iff, Option.any_eq_true]
  constructor
  · rintro ⟨hj, hs, hc⟩
    exact ⟨j - 1, hs, hc, by omega⟩
  · rintro ⟨i, hs, hc, rfl⟩
    exact ⟨by omega, hs, hc⟩

/-- **Ends of matches.**  From each set of positions the matcher leads to the ends of the matches
that start there. -/
theorem ends_iff (text : List Char) (r : Regex) (h : r.InOrder) :
    Follows text.length ((onText text r).ends (text.length + 1)) (r.Matches text) := by
  induction r with
  | empty =>
    intro s _ j
    exact ⟨fun hj => ⟨j, hj, rfl⟩, fun ⟨i, hi, hij⟩ => hij ▸ hi⟩
  | char c =>
    intro s _ j
    rw [onText, ends_take]
    simp [Matches]
  | set set =>
    intro s _ j
    rw [onText, ends_take]
    simp only [Matches]
  | look l =>
    intro s hs j
    rw [onText, Scan.ends, Nat.testBit_and, Bool.and_eq_true, testBit_heldAt]
    constructor
    · rintro ⟨hj, -, hl⟩
      exact ⟨j, hj, hl, rfl⟩
    · rintro ⟨i, hi, hl, rfl⟩
      exact ⟨hi, hs i hi, hl⟩
  | seq a b iha ihb =>
    intro s hs k
    have ha := iha h.1
    rw [onText, Scan.ends, ihb h.2 _ (ha.within (matches_staysWithin text a) hs) k]
    constructor
    · rintro ⟨j, hj, hjk⟩
      obtain ⟨i, hi, hij⟩ := (ha s hs j).mp hj
      exact ⟨i, hi, j, hij, hjk⟩
    · rintro ⟨i, hi, j, hij, hjk⟩
      exact ⟨j, (ha s hs j).mpr ⟨i, hi, hij⟩, hjk⟩
  | alt a b iha ihb =>
    intro s hs j
    rw [onText, Scan.ends, Nat.testBit_or, Bool.or_eq_true, iha h.1 s hs j, ihb h.2 s hs j]
    constructor
    · rintro (⟨i, hi, hij⟩ | ⟨i, hi, hij⟩)
      · exact ⟨i, hi, .inl hij⟩
      · exact ⟨i, hi, .inr hij⟩
    · rintro ⟨i, hi, hij | hij⟩
      · exact .inl ⟨i, hi, hij⟩
      · exact .inr ⟨i, hi, hij⟩
  | rep min max body ih =>
    intro s hs k
    have hbody := ih h.2
    have hstep := matches_staysWithin text body
    have htimes := times_iff hbody hstep min
    have hfirst := htimes.within (hstep.rounds min) hs
    -- the rounds beyond `min`, which are bounded or not
    have hmore : ((onText text (rep min max body)).ends (text.length + 1) s).testBit k = true ↔
        ∃ j, (times ((onText text body).ends (text.length + 1)) min s).testBit j = true ∧
          ∃ n, (∀ m, max = some m → min + n ≤ m) ∧ Rounds (body.Matches text) n j k := by
      cases max with
      | none =>
        rw [onText, Scan.ends, spread_all_iff hbody hstep hfirst]
        simp
      | some m =>
        have hbounds : ∀ n, n ≤ m - min ↔ min + n ≤ m := by
          have := h.1 m rfl
          intro n
          omega
        rw [onText, Scan.ends, (spreading_start hfirst).spread_iff hbody hstep]
        simp [AtMost, hbounds]
    rw [hmore]
    constructor
    · rintro ⟨j, hj, n, hn, hjk⟩
      obtain ⟨i, hi, hij⟩ := (htimes s hs j).mp hj
      exact ⟨i, hi, min + n, Nat.le_add_right min n, hn, hij.append hjk⟩
    · rintro ⟨i, hi, n, hmin, hmax, hik⟩
      obtain ⟨n, rfl⟩ := Nat.exists_eq_add_of_le hmin
      obtain ⟨j, hij, hjk⟩ := hik.split
      exact ⟨j, (htimes s hs j).mpr ⟨i, hi, hij⟩, n, hmax, hjk⟩
  | capture body ih => exact ih h

theorem testBit_everyPosition (length i : Nat) :
    (everyPosition length).testBit i = true ↔ i ≤ length := by
  rw [everyPosition, Nat.one_shiftLeft, Nat.testBit_two_pow_sub_one, decide_eq_true_iff,
    Nat.lt_succ_iff]

/-- **Search.**  An expression is found in a text where it has a match from some position on. -/
theorem isMatch_iff {r : Regex} (h : r.InOrder) (text : List Char) :
    r.isMatch text = true ↔ ∃ i j, i ≤ text.length ∧ r.Matches text i j := by
  have hends := ends_iff text r h (everyPosition text.length) fun i hi =>
    (testBit_everyPosition text.length i).mp hi
  rw [isMatch, bne_iff_ne]
  constructor
  · intro hne
    obtain ⟨j, hj⟩ := Nat.exists_testBit_of_ne_zero hne
    obtain ⟨i, hi, hmatch⟩ := (hends j).mp hj
    exact ⟨i, j, (testBit_everyPosition text.length i).mp hi, hmatch⟩
  · rintro ⟨i, j, hi, hmatch⟩ hzero
    have hj := (hends j).mpr ⟨i, (testBit_everyPosition text.length i).mpr hi, hmatch⟩
    rw [hzero, Nat.zero_testBit] at hj
    cases hj

end ProxyRouting.Regex
