import Mathlib.Data.List.TakeWhile
import ProxyRouting.Text.Blank

/-!
# Trimming

A character that is no blank keeps all that stands on the other side of it.

    trimLeft (s ++ c :: t) = trimLeft s ++ c :: t
    trimRight (s ++ c :: t) = s ++ c :: trimRight t        (c no blank)
    trim s = [] ↔ all of s is blank
    trim (b ++ (s ++ t)) = s ++ trimRight t                (b blank; s not empty and without blanks)
    trim s = w ↔ IsTrimmed w ∧ IsPadded w s                (s is w with blanks around it)
-/

namespace ProxyRouting.Text

variable {p : Char → Bool} {c : Char}

theorem dropWhile_append_cons (h : p c = false) (s t : List Char) :
    (s ++ c :: t).dropWhile p = s.dropWhile p ++ c :: t := by
  rw [List.dropWhile_append]
  split
  · next he =>
    rw [List.isEmpty_iff] at he
    rw [he, List.dropWhile_cons_of_neg (by simp [h])]
    rfl
  · rfl

/-- The same from the other end. -/
theorem reverse_dropWhile_append_cons (h : p c = false) (s t : List Char) :
    ((s ++ c :: t).reverse.dropWhile p).reverse = s ++ c :: (t.reverse.dropWhile p).reverse := by
  rw [List.reverse_append, List.reverse_cons, List.append_assoc, List.singleton_append,
    dropWhile_append_cons h]
  simp

theorem trimLeft_append_cons (h : isBlank c = false) (s t : List Char) :
    trimLeft (s ++ c :: t) = trimLeft s ++ c :: t :=
  dropWhile_append_cons h s t

theorem trimRight_append_cons (h : isBlank c = false) (s t : List Char) :
    trimRight (s ++ c :: t) = s ++ c :: trimRight t :=
  reverse_dropWhile_append_cons h s t

/-- Nothing is left of blanks, and of no other text. -/
theorem trim_eq_nil_iff (s : List Char) : trim s = [] ↔ ∀ c ∈ s, isBlank c = true := by
  constructor
  · intro h c hc
    by_contra hblank
    rw [Bool.not_eq_true] at hblank
    obtain ⟨u, t, rfl⟩ := List.append_of_mem hc
    rw [trim, trimLeft_append_cons hblank, trimRight_append_cons hblank] at h
    exact List.append_ne_nil_of_right_ne_nil _ (List.cons_ne_nil _ _) h
  · intro h
    rw [trim, trimLeft, List.dropWhile_eq_nil_iff.mpr h]
    rfl

/-- What is trimmed off the end is blank. -/
theorem exists_blanks_trimRight (s : List Char) :
    ∃ b, s = trimRight s ++ b ∧ ∀ c ∈ b, isBlank c = true := by
  refine ⟨(s.reverse.takeWhile isBlank).reverse, ?_, fun c hc => ?_⟩
  · rw [trimRight, ← List.reverse_append, List.takeWhile_append_dropWhile, List.reverse_reverse]
  · exact List.mem_takeWhile_imp (List.mem_reverse.mp hc)

theorem trimRight_prefix (s : List Char) : trimRight s <+: s := by
  obtain ⟨b, hs, -⟩ := exists_blanks_trimRight s
  exact ⟨b, hs.symm⟩

theorem trimRight_append_blanks {b : List Char} (h : ∀ c ∈ b, isBlank c = true) (s : List Char) :
    trimRight (s ++ b) = trimRight s := by
  rw [trimRight, List.reverse_append, List.dropWhile_append_of_pos (by simpa using h)]
  rfl

/-- A text with no blank at its ends is kept, and what follows it is trimmed at its own end. -/
theorem trim_append {b s : List Char} (hb : ∀ c ∈ b, isBlank c = true) (hne : s ≠ [])
    (hs : ∀ c ∈ s, isBlank c = false) (t : List Char) :
    trim (b ++ (s ++ t)) = s ++ trimRight t := by
  have hleft : trimLeft (b ++ (s ++ t)) = s ++ t := by
    obtain ⟨c, u, rfl⟩ := List.exists_cons_of_ne_nil hne
    rw [List.cons_append, trimLeft_append_cons (hs c List.mem_cons_self), trimLeft,
      List.dropWhile_eq_nil_iff.mpr hb, List.nil_append]
  obtain ⟨u, c, rfl⟩ : ∃ u c, s = u ++ [c] := ⟨_, _, (List.dropLast_concat_getLast hne).symm⟩
  rw [trim, hleft, List.append_assoc, List.singleton_append,
    trimRight_append_cons (hs c (by simp))]
  simp

/-- A word that ends in no blank is not lost. -/
theorem infix_trimRight_iff {w : List Char} (h : isBlank c = false) (s : List Char) :
    w ++ [c] <:+: trimRight s ↔ w ++ [c] <:+: s := by
  obtain ⟨b, hs, -⟩ := exists_blanks_trimRight s
  constructor
  · intro hw
    rw [hs]
    exact hw.trans (List.infix_append [] _ b)
  · rintro ⟨x, y, hxy⟩
    rw [← hxy]
    refine ⟨x, trimRight y, ?_⟩
    have he : x ++ (w ++ [c]) ++ y = (x ++ w) ++ c :: y := by simp
    rw [he, trimRight_append_cons h]
    simp

/-! ## Ends -/

/-- No blank stands at an end of the text. -/
def IsTrimmed (s : List Char) : Prop :=
  (∀ c ∈ s.head?, isBlank c = false) ∧ ∀ c ∈ s.getLast?, isBlank c = false

theorem isTrimmed_of_forall {s : List Char} (h : ∀ c ∈ s, isBlank c = false) : IsTrimmed s :=
  ⟨fun c hc => h c (List.mem_of_mem_head? hc), fun c hc => h c (List.mem_of_getLast? hc)⟩

theorem head?_dropWhile {s : List Char} : ∀ c ∈ (s.dropWhile p).head?, p c = false := by
  intro c hc
  have hnot := List.head?_dropWhile_not p s
  rw [Option.mem_def.mp hc] at hnot
  exact hnot

theorem isTrimmed_trim (s : List Char) : IsTrimmed (trim s) := by
  constructor
  · intro c hc
    obtain ⟨b, hb⟩ := trimRight_prefix (trimLeft s)
    refine head?_dropWhile (p := isBlank) (s := s) c ?_
    show c ∈ (trimLeft s).head?
    rw [← hb]
    have hhead : (trimRight (trimLeft s)).head? = some c := hc
    rw [List.head?_append, hhead]
    rfl
  · intro c hc
    rw [trim, trimRight, List.getLast?_reverse] at hc
    exact head?_dropWhile c hc

theorem mem_of_mem_trim {c : Char} {s : List Char} (h : c ∈ trim s) : c ∈ s := by
  have hright := trimRight_prefix (trimLeft s)
  exact (List.dropWhile_sublist isBlank).subset (hright.subset h)

/-! ## Blanks around a text -/

/-- The second text is the first with blanks before it and after it. -/
def IsPadded (w s : List Char) : Prop :=
  ∃ b e, (∀ c ∈ b, isBlank c = true) ∧ (∀ c ∈ e, isBlank c = true) ∧ s = b ++ w ++ e

variable {w s : List Char}

theorem isPadded_trim (s : List Char) : IsPadded (trim s) s := by
  obtain ⟨e, he, hblank⟩ := exists_blanks_trimRight (trimLeft s)
  refine ⟨s.takeWhile isBlank, e, fun c hc => List.mem_takeWhile_imp hc, hblank, ?_⟩
  calc s = s.takeWhile isBlank ++ trimLeft s := List.takeWhile_append_dropWhile.symm
    _ = s.takeWhile isBlank ++ (trim s ++ e) := by rw [trim, ← he]
    _ = s.takeWhile isBlank ++ trim s ++ e := (List.append_assoc ..).symm

theorem IsPadded.trim_eq (h : IsPadded w s) (hw : IsTrimmed w) : trim s = w := by
  obtain ⟨b, e, hb, he, rfl⟩ := h
  by_cases hne : w = []
  · rw [hne, trim_eq_nil_iff, List.append_nil]
    intro c hc
    exact (List.mem_append.mp hc).elim (hb c) (he c)
  · obtain ⟨c, u, hfirst⟩ := List.exists_cons_of_ne_nil hne
    have hleft : trimLeft (b ++ w ++ e) = w ++ e := by
      have hc : isBlank c = false := hw.1 c (by rw [hfirst]; rfl)
      rw [hfirst, List.append_assoc, List.cons_append, trimLeft_append_cons hc, trimLeft,
        List.dropWhile_eq_nil_iff.mpr hb, List.nil_append]
    have hlast := List.dropLast_concat_getLast hne
    have hd : isBlank (w.getLast hne) = false :=
      hw.2 _ (List.getLast?_eq_some_getLast hne)
    rw [trim, hleft, trimRight_append_blanks he, ← hlast, trimRight_append_cons hd]
    rfl

theorem trim_eq_iff : trim s = w ↔ IsTrimmed w ∧ IsPadded w s := by
  constructor
  · rintro rfl
    exact ⟨isTrimmed_trim s, isPadded_trim s⟩
  · rintro ⟨hw, hs⟩
    exact hs.trim_eq hw

end ProxyRouting.Text
