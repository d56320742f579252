import Mathlib.Data.List.Basic
import ProxyRouting.Text.Cut

/-!
# Where texts are cut

Each way of cutting a text is told by what it gives: the parts, and which of them is free of the
mark.

    cut? m s = some (a, b) ↔ s = a ++ m :: b ∧ m ∉ a
    cutLast? m s = some (a, b) ↔ s = a ++ m :: b ∧ m ∉ b
    cutAt? w s = some (a, b) ↔ s = a ++ w ++ b ∧ (w starts no earlier in s)
    splitAt m (s ++ m :: t) = splitAt m s ++ splitAt m t
    piece ∈ splitAt m s → m ∉ piece
-/

namespace ProxyRouting.Text

variable {m : Char} {s a b : List Char}

/-! ## At a character -/

theorem cut?_append (hm : m ∉ a) (b : List Char) : cut? m (a ++ m :: b) = some (a, b) := by
  induction a with
  | nil => simp [cut?]
  | cons c a ih =>
    rw [List.mem_cons, not_or] at hm
    have hc : (c == m) = false := by simpa using fun h => hm.1 (Eq.symm h)
    simp [cut?, hc, ih hm.2]

theorem cut?_eq_none_iff : cut? m s = none ↔ m ∉ s := by
  induction s with
  | nil => simp [cut?]
  | cons c s ih =>
    rw [cut?]
    by_cases hc : c = m
    · simp [hc]
    · simp [hc, ih, Ne.symm hc]

theorem cut?_eq_some_iff : cut? m s = some (a, b) ↔ s = a ++ m :: b ∧ m ∉ a := by
  constructor
  · intro h
    induction s generalizing a with
    | nil => simp [cut?] at h
    | cons c s ih =>
      rw [cut?] at h
      by_cases hc : c = m
      · simp only [hc, beq_self_eq_true, if_true, Option.some.injEq, Prod.mk.injEq] at h
        obtain ⟨rfl, rfl⟩ := h
        exact ⟨by rw [hc]; rfl, List.not_mem_nil⟩
      · rw [if_neg (by simpa using hc), Option.map_eq_some_iff] at h
        obtain ⟨⟨a', b'⟩, hr, he⟩ := h
        cases he
        obtain ⟨rfl, hm⟩ := ih hr
        exact ⟨rfl, by simpa [hm] using Ne.symm hc⟩
  · rintro ⟨rfl, hm⟩
    exact cut?_append hm b

theorem cutLast?_eq_none_iff : cutLast? m s = none ↔ m ∉ s := by
  induction s with
  | nil => simp [cutLast?]
  | cons c s ih =>
    rw [cutLast?]
    cases hs : cutLast? m s with
    | some r =>
      have : m ∈ s := by
        apply Classical.byContradiction
        intro hm
        rw [ih.mpr hm] at hs
        cases hs
      simp [this]
    | none =>
      have hm := ih.mp hs
      by_cases hc : c = m
      · simp [hc]
      · simp [hc, hm, Ne.symm hc]

theorem cutLast?_append (hm : m ∉ b) (a : List Char) :
    cutLast? m (a ++ m :: b) = some (a, b) := by
  induction a with
  | nil => simp [cutLast?, cutLast?_eq_none_iff.mpr hm]
  | cons c a ih => simp [cutLast?, ih]

theorem cutLast?_eq_some_iff : cutLast? m s = some (a, b) ↔ s = a ++ m :: b ∧ m ∉ b := by
  constructor
  · intro h
    induction s generalizing a with
    | nil => simp [cutLast?] at h
    | cons c s ih =>
      rw [cutLast?] at h
      cases hs : cutLast? m s with
      | some r =>
        rw [hs] at h
        obtain ⟨a', b'⟩ := r
        cases h
        obtain ⟨rfl, hm⟩ := ih hs
        exact ⟨rfl, hm⟩
      | none =>
        rw [hs] at h
        by_cases hc : c = m
        · simp only [hc, beq_self_eq_true, if_true, Option.some.injEq, Prod.mk.injEq] at h
          obtain ⟨rfl, rfl⟩ := h
          exact ⟨by rw [hc]; rfl, cutLast?_eq_none_iff.mp hs⟩
        · simp [hc] at h
  · rintro ⟨rfl, hm⟩
    exact cutLast?_append hm a

/-- No place with the mark is before the first. -/
theorem cut?_length_le {a' b' : List Char} (h : cut? m s = some (a, b)) (hs : s = a' ++ m :: b') :
    a.length ≤ a'.length := by
  obtain ⟨rfl, hm⟩ := cut?_eq_some_iff.mp h
  rcases List.append_eq_append_iff.mp hs with ⟨c, rfl, -⟩ | ⟨c, rfl, hc⟩
  · rw [List.length_append]
    omega
  · cases c with
    | nil => simp
    | cons d c =>
      cases hc
      exact absurd (List.mem_append_right _ (List.mem_cons_self ..)) hm

/-- No place with the mark is after the last. -/
theorem length_le_of_cutLast? {a' b' : List Char} (h : cutLast? m s = some (a, b))
    (hs : s = a' ++ m :: b') : a'.length ≤ a.length := by
  obtain ⟨rfl, hm⟩ := cutLast?_eq_some_iff.mp h
  rcases List.append_eq_append_iff.mp hs with ⟨c, rfl, hc⟩ | ⟨c, rfl, -⟩
  · cases c with
    | nil => simp
    | cons d c =>
      cases hc
      exact absurd (List.mem_append_right _ (List.mem_cons_self ..)) hm
  · rw [List.length_append]
    omega

/-! ## At a word -/

variable {w : List Char}

theorem cutAt?_of_append (h : w ++ b = s) : cutAt? w s = some ([], b) := by
  have hp : w.isPrefixOf? s = some b := List.isPrefixOf?_eq_some_iff_append_eq.mpr h
  unfold cutAt?
  rw [hp]

theorem cutAt?_cons {c : Char} (h : ¬ w <+: c :: s) :
    cutAt? w (c :: s) = (cutAt? w s).map fun r => (c :: r.1, r.2) := by
  have hp : w.isPrefixOf? (c :: s) = none := by
    cases hp : w.isPrefixOf? (c :: s) with
    | none => rfl
    | some rest => exact absurd ⟨rest, List.isPrefixOf?_eq_some_iff_append_eq.mp hp⟩ h
  rw [cutAt?, hp]

theorem cutAt?_eq_none_iff (hw : w ≠ []) : cutAt? w s = none ↔ ¬ w <:+: s := by
  induction s with
  | nil =>
    cases w with
    | nil => exact absurd rfl hw
    | cons c w => simp [cutAt?, List.isPrefixOf?]
  | cons c s ih =>
    rw [List.infix_cons_iff]
    by_cases hp : w <+: c :: s
    · obtain ⟨rest, hr⟩ := hp
      have hpre : w <+: c :: s := ⟨rest, hr⟩
      simp [cutAt?_of_append hr, hpre]
    · simp [cutAt?_cons hp, hp, ih]

/-- The cut is at the first place where the word stands. -/
theorem cutAt?_eq_some_iff (hw : w ≠ []) : cutAt? w s = some (a, b) ↔
    s = a ++ w ++ b ∧ ∀ x y, s = x ++ w ++ y → a.length ≤ x.length := by
  induction s generalizing a with
  | nil =>
    rw [(cutAt?_eq_none_iff hw).mpr (by simpa using hw)]
    simp [hw, eq_comm]
  | cons c s ih =>
    by_cases hp : w <+: c :: s
    · obtain ⟨rest, hr⟩ := hp
      rw [cutAt?_of_append hr, Option.some.injEq, Prod.mk.injEq]
      constructor
      · rintro ⟨rfl, rfl⟩
        exact ⟨hr.symm, fun x y _ => Nat.zero_le _⟩
      · rintro ⟨hs, hfirst⟩
        have ha : a = [] := List.length_eq_zero_iff.mp (Nat.le_zero.mp (hfirst [] rest hr.symm))
        subst ha
        exact ⟨rfl, List.append_cancel_left (hr.trans hs)⟩
    · rw [cutAt?_cons hp]
      cases a with
      | nil =>
        have hs : c :: s ≠ w ++ b := fun hs => hp ⟨b, hs.symm⟩
        simp [hs]
      | cons c' a =>
        constructor
        · intro h
          obtain ⟨⟨a', b'⟩, hr, he⟩ := Option.map_eq_some_iff.mp h
          cases he
          obtain ⟨rfl, hfirst⟩ := ih.mp hr
          refine ⟨rfl, fun x y hxy => ?_⟩
          cases x with
          | nil => exact absurd ⟨y, Eq.symm hxy⟩ hp
          | cons d x => exact Nat.succ_le_succ (hfirst x y (List.cons.inj hxy).2)
        · rintro ⟨hs, hfirst⟩
          cases hs
          have := ih.mpr ⟨rfl, fun x y hxy => by
            have := hfirst (c :: x) y (by rw [hxy]; rfl)
            exact Nat.le_of_succ_le_succ this⟩
          rw [this]
          rfl

/-- What follows the first such place may be replaced. -/
theorem cutAt?_replace (hw : w ≠ []) (h : cutAt? w s = some (a, b)) (b' : List Char) : cutAt? w (a ++ w ++ b') = some (a, b') := by
  obtain ⟨rfl, hfirst⟩ := (cutAt?_eq_some_iff hw).mp h
  refine (cutAt?_eq_some_iff hw).mpr ⟨rfl, fun x y hxy => ?_⟩
  by_contra hlt
  -- an earlier place would be within what is kept
  obtain ⟨z, hz⟩ : x ++ w <+: a ++ w := by
    refine List.prefix_of_prefix_length_le ⟨y, hxy.symm⟩ ⟨b', rfl⟩ ?_
    rw [List.length_append, List.length_append]
    omega
  refine hlt (hfirst x (z ++ b) ?_)
  rw [← hz, List.append_assoc]

/-- A word with `m` at its start does not begin in a text without `m`. -/
theorem cutAt?_append_of_not_mem (hm : m ∉ a) (s : List Char) :
    cutAt? (m :: w) (a ++ s) = (cutAt? (m :: w) s).map fun r => (a ++ r.1, r.2) := by
  induction a with
  | nil => simp
  | cons c a ih =>
    rw [List.mem_cons, not_or] at hm
    have hp : ¬ m :: w <+: c :: (a ++ s) := fun hp => hm.1 (List.cons_prefix_cons.mp hp).1
    rw [List.cons_append, cutAt?_cons hp, ih hm.2, Option.map_map]
    rfl

theorem prefix_append_cons_iff {c : Char} (hc : c ∉ w) (s b : List Char) :
    w <+: s ++ c :: b ↔ w <+: s := by
  refine ⟨fun h => ?_, fun h => h.trans (List.prefix_append _ _)⟩
  have hs : s ++ [c] <+: s ++ c :: b := ⟨b, by simp⟩
  by_cases hlen : w.length ≤ s.length
  · exact List.prefix_of_prefix_length_le h (List.prefix_append _ _) hlen
  · have hle : (s ++ [c]).length ≤ w.length := by
      rw [List.length_append, List.length_singleton]
      omega
    have : s ++ [c] <+: w := List.prefix_of_prefix_length_le hs h hle
    exact absurd (this.subset (List.mem_append_right _ (List.mem_singleton.mpr rfl))) hc

/-- A word stands in no place with a character that it has not. -/
theorem infix_append_cons_iff {c : Char} (hc : c ∉ w) (s b : List Char) :
    w <:+: s ++ c :: b ↔ w <:+: s ∨ w <:+: b := by
  induction s with
  | nil =>
    have hp : w <+: c :: b ↔ w = [] := by
      rw [← List.prefix_nil]
      exact prefix_append_cons_iff hc [] b
    rw [List.nil_append, List.infix_cons_iff, hp, List.infix_nil]
  | cons d s ih =>
    have hp := prefix_append_cons_iff hc (d :: s) b
    rw [List.cons_append] at hp
    rw [List.cons_append, List.infix_cons_iff, hp, ih, List.infix_cons_iff, or_assoc]

/-- Nor does it reach into a text that has none of its characters. -/
theorem infix_append_append_iff (hw : w ≠ []) {x : List Char} (hne : x ≠ []) (hx : ∀ c ∈ x, c ∉ w)
    (s b : List Char) : w <:+: s ++ x ++ b ↔ w <:+: s ∨ w <:+: b := by
  induction x generalizing s with
  | nil => exact absurd rfl hne
  | cons c x ih =>
    have hc := hx c List.mem_cons_self
    by_cases hnil : x = []
    · rw [hnil, List.append_assoc, List.singleton_append, infix_append_cons_iff hc]
    · have hstep : s ++ c :: x ++ b = s ++ [c] ++ x ++ b := by simp
      rw [hstep, ih hnil (fun d hd => hx d (List.mem_cons_of_mem _ hd)),
        infix_append_cons_iff hc s [], List.infix_nil, or_iff_left hw]

theorem cutAt?_append_cons {c : Char} (hw : w ≠ []) (hc : c ∉ w) (s b : List Char) :
    cutAt? w (s ++ c :: b) =
      match cutAt? w s with
      | some r => some (r.1, r.2 ++ c :: b)
      | none => (cutAt? w b).map fun r => (s ++ c :: r.1, r.2) := by
  induction s with
  | nil =>
    have hp : ¬ w <+: c :: b := fun hp =>
      hw (List.prefix_nil.mp ((prefix_append_cons_iff hc [] b).mp hp))
    have hnil : cutAt? w [] = none := (cutAt?_eq_none_iff hw).mpr (by simpa using hw)
    rw [List.nil_append, cutAt?_cons hp, hnil]
    rfl
  | cons d s ih =>
    by_cases hp : w <+: d :: s
    · obtain ⟨r, hr⟩ := hp
      rw [cutAt?_of_append hr, cutAt?_of_append (b := r ++ c :: b) (by simp [← hr])]
    · have hp' := mt (prefix_append_cons_iff hc (d :: s) b).mp hp
      rw [List.cons_append] at hp' ⊢
      rw [cutAt?_cons hp', ih, cutAt?_cons hp]
      cases cutAt? w s with
      | some r => rfl
      | none =>
        simp only [Option.map_none, Option.map_map]
        rfl

/-! ## Words that stand once -/

/-- Whether a word stands in a text at one place at most. -/
def OnceIn (w s : List Char) : Prop :=
  ∀ a b a' b', s = a ++ w ++ b → s = a' ++ w ++ b' → a = a'

/-- No other place is found after the first. -/
theorem onceIn_iff (hw : w ≠ []) :
    OnceIn w s ↔ ∀ r ∈ cutAt? w s, ¬ w <:+: (w ++ r.2).tail := by
  constructor
  · rintro honce ⟨a, b⟩ h ⟨x, y, hxy⟩
    obtain ⟨hs, -⟩ := (cutAt?_eq_some_iff hw).mp h
    obtain ⟨c, t, hct⟩ := List.exists_cons_of_ne_nil hw
    have htail : w ++ b = c :: ((w ++ b).tail) := by rw [hct]; rfl
    have := honce a b (a ++ c :: x) y hs (by
      rw [hs, List.append_assoc, htail, ← hxy]
      simp)
    simp at this
  · intro h x y x' y' hx hx'
    cases hcut : cutAt? w s with
    | none => exact absurd ⟨x, y, hx.symm⟩ ((cutAt?_eq_none_iff hw).mp hcut)
    | some r =>
      obtain ⟨a, b⟩ := r
      obtain ⟨hs, hfirst⟩ := (cutAt?_eq_some_iff hw).mp hcut
      have hfound : ∀ x y, s = x ++ w ++ y → x = a := by
        intro x y hx
        obtain ⟨z, rfl⟩ : a <+: x := by
          have ha : a <+: s := ⟨w ++ b, by rw [hs, List.append_assoc]⟩
          have hx' : x <+: s := ⟨w ++ y, by rw [hx, List.append_assoc]⟩
          exact List.prefix_of_prefix_length_le ha hx' (hfirst x y hx)
        cases z with
        | nil => exact List.append_nil a
        | cons c z =>
          have he : w ++ b = c :: z ++ w ++ y := by
            rw [hs] at hx
            simpa only [List.append_assoc, List.append_cancel_left_eq] using hx
          exact absurd ⟨z, y, by rw [he]; rfl⟩ (h _ hcut)
      rw [hfound x y hx, hfound x' y' hx']

/-! ## Into pieces -/

theorem splitOn_mark (m : Char) (s : List Char) : (m :: s).splitOn m = [] :: s.splitOn m := by
  rw [List.splitOn, List.splitOnP_cons_eq_if_modifyHead, if_pos (beq_self_eq_true m)]
  rfl

theorem splitOn_cons {m c : Char} (hc : c ≠ m) (s : List Char) :
    ∃ piece pieces, s.splitOn m = piece :: pieces ∧
      (c :: s).splitOn m = (c :: piece) :: pieces := by
  cases hs : s.splitOn m with
  | nil => exact absurd hs (List.splitOnP_ne_nil _ s)
  | cons piece pieces =>
    refine ⟨piece, pieces, rfl, ?_⟩
    rw [List.splitOn, List.splitOnP_cons_eq_if_modifyHead, if_neg (by simpa using hc)]
    exact congrArg (List.modifyHead (List.cons c)) hs

theorem splitAt_eq_splitOn (m : Char) (s : List Char) : splitAt m s = s.splitOn m := by
  induction s with
  | nil => rfl
  | cons c s ih =>
    by_cases hc : c = m
    · rw [hc, splitOn_mark, splitAt, if_pos (beq_self_eq_true m), ih]
    · obtain ⟨piece, pieces, hs, hcons⟩ := splitOn_cons hc s
      rw [hcons, splitAt, if_neg (by simpa using hc), ih, hs]

/-- A mark separates what stands before it from what stands after it. -/
theorem splitAt_append_mark (m : Char) (s t : List Char) :
    splitAt m (s ++ m :: t) = splitAt m s ++ splitAt m t := by
  rw [splitAt_eq_splitOn, splitAt_eq_splitOn, splitAt_eq_splitOn]
  exact List.splitOnP_append_cons s t (beq_self_eq_true m)

theorem splitAt_of_notMem (h : m ∉ s) : splitAt m s = [s] := by
  have hs : ([m].intercalate [s]).splitOn m = [s] :=
    List.splitOn_intercalate m (by simpa using h) (List.cons_ne_nil _ _)
  rwa [List.intercalate_singleton, ← splitAt_eq_splitOn] at hs

theorem mem_intercalate {separator piece : List Char} {pieces : List (List Char)} {c : Char}
    (hpiece : piece ∈ pieces) (hc : c ∈ piece) : c ∈ separator.intercalate pieces := by
  induction pieces with
  | nil => cases hpiece
  | cons first pieces ih =>
    cases pieces with
    | nil =>
      rw [List.mem_singleton] at hpiece
      rwa [List.intercalate_singleton, ← hpiece]
    | cons second pieces =>
      rw [List.intercalate_cons_cons, List.append_assoc, List.mem_append, List.mem_append]
      rcases List.mem_cons.mp hpiece with rfl | hpiece
      · exact .inl hc
      · exact .inr (.inr (ih hpiece))

theorem mem_of_mem_intercalate {mark c : Char} {pieces : List (List Char)}
    (h : c ∈ [mark].intercalate pieces) : c = mark ∨ ∃ piece ∈ pieces, c ∈ piece := by
  induction pieces with
  | nil => cases h
  | cons first pieces ih =>
    cases pieces with
    | nil =>
      rw [List.intercalate_singleton] at h
      exact .inr ⟨first, List.mem_cons_self, h⟩
    | cons second pieces =>
      rw [List.intercalate_cons_cons, List.append_assoc, List.mem_append, List.mem_append,
        List.mem_singleton] at h
      rcases h with h | h | h
      · exact .inr ⟨first, List.mem_cons_self, h⟩
      · exact .inl h
      · exact (ih h).imp_right fun ⟨piece, hpiece, hc⟩ =>
          ⟨piece, List.mem_cons_of_mem _ hpiece, hc⟩

theorem mem_of_mem_splitOn {c : Char} {piece : List Char} (hpiece : piece ∈ s.splitOn m)
    (hc : c ∈ piece) : c ∈ s := by
  have hs : [m].intercalate (s.splitOn m) = s := List.intercalate_splitOn m
  rw [← hs]
  exact mem_intercalate hpiece hc

/-- A character that is no mark is kept in some piece. -/
theorem exists_mem_splitAt {c : Char} (hne : c ≠ m) (hc : c ∈ s) :
    ∃ piece ∈ splitAt m s, c ∈ piece := by
  have hs : [m].intercalate (s.splitOn m) = s := List.intercalate_splitOn m
  rw [← hs] at hc
  rw [splitAt_eq_splitOn]
  exact (mem_of_mem_intercalate hc).resolve_left hne

/-- No piece has the mark. -/
theorem notMem_of_mem_splitAt {piece : List Char} (h : piece ∈ splitAt m s) : m ∉ piece := by
  rw [splitAt_eq_splitOn] at h
  induction s generalizing piece with
  | nil =>
    rw [List.mem_singleton.mp h]
    exact List.not_mem_nil
  | cons c s ih =>
    by_cases hc : c = m
    · rw [hc, splitOn_mark] at h
      rcases List.mem_cons.mp h with rfl | h
      · exact List.not_mem_nil
      · exact ih h
    · obtain ⟨first, pieces, hs, hcons⟩ := splitOn_cons hc s
      rw [hcons] at h
      rw [hs] at ih
      rcases List.mem_cons.mp h with rfl | h
      · rw [List.mem_cons, not_or]
        exact ⟨Ne.symm hc, ih List.mem_cons_self⟩
      · exact ih (List.mem_cons_of_mem _ h)

end ProxyRouting.Text
