import Mathlib.Data.List.Basic
import ProxyRouting.Unicode.Normal

/-!
# Characters that composing leaves alone

What comes before the less-than sign is neither taken apart nor composed with anything, and marks are
only put in order.  So it is still there in the composed form.

    n ∈ ns → n ∈ normalize ns                                            (n < 0x3C)
-/

namespace ProxyRouting.Unicode

variable {n : Nat}

theorem mem_decompose {ns : List Nat} (hlow : n < 0xC0) (h : n ∈ ns) : n ∈ decompose ns :=
  List.mem_flatMap.mpr ⟨n, h, by rw [if_pos hlow]; exact List.mem_singleton.mpr rfl⟩

theorem mem_sorted {held : List (Nat × Nat)} (h : n ∈ held.map Prod.snd) :
    n ∈ reorderFrom.sorted held := by
  obtain ⟨e, he, rfl⟩ := List.mem_map.mp h
  exact List.mem_map_of_mem (List.mem_mergeSort.mpr (List.mem_reverse.mpr he))

theorem mem_reorderFrom {ns : List Nat} : ∀ {held : List (Nat × Nat)},
    n ∈ held.map Prod.snd ∨ n ∈ ns → n ∈ reorderFrom held ns := by
  induction ns with
  | nil =>
    rintro held (h | h)
    · exact mem_sorted h
    · cases h
  | cons m ns ih =>
    intro held h
    rw [reorderFrom]
    by_cases hclass : (combiningClass m == 0) = true
    · rw [if_pos hclass, List.mem_append, List.mem_cons]
      obtain h | h := h
      · exact .inl (mem_sorted h)
      · exact .inr ((List.mem_cons.mp h).imp_right fun h => ih (.inr h))
    · rw [if_neg hclass]
      refine ih ?_
      rw [List.map_cons, List.mem_cons]
      obtain h | h := h
      · exact .inl (.inr h)
      · exact (List.mem_cons.mp h).imp_left .inl

/-- What is composed is neither low nor joined with anything before the first mark. -/
theorem le_of_composePair {a b s : Nat} (h : composePair a b = some s) : 0x3C ≤ a ∧ 0x300 ≤ b := by
  unfold composePair at h
  simp only [Bool.and_eq_true, Bool.or_eq_true, decide_eq_true_eq] at h
  split at h
  · omega
  · split at h
    · omega
    · split at h
      · cases h
      · omega

theorem mem_composeFrom (hlow : n < 0x3C) (ns : List Nat) :
    ∀ {starter : Option Nat} {between : List Nat} (lastClass : Nat),
      n ∈ starter.toList ++ between ∨ n ∈ ns → n ∈ composeFrom starter between lastClass ns := by
  induction ns with
  | nil =>
    rintro starter between _ (h | h)
    · simpa [composeFrom] using h
    · cases h
  | cons m ns ih =>
    intro starter between lastClass h
    rw [composeFrom]
    split
    · next s hs =>
      -- the starter and `m` are joined, and neither of them is so low
      split at hs
      · obtain ⟨a, rfl, hpair⟩ := Option.bind_eq_some_iff.mp hs
        obtain ⟨ha, hm⟩ := le_of_composePair hpair
        have hne : n ≠ a ∧ n ≠ m := by omega
        refine ih lastClass ?_
        simp only [Option.toList_some, List.singleton_append, List.mem_cons, hne.1, hne.2,
          false_or] at h ⊢
        exact h.imp_left .inr
      · cases hs
    · split
      · rw [List.mem_append, List.mem_append, List.mem_reverse]
        obtain h | h := h
        · exact .inl (List.mem_append.mp h)
        · refine .inr (ih 0 ?_)
          simpa using h
      · refine ih _ ?_
        simp only [List.mem_append, List.mem_cons] at h ⊢
        tauto

/-- Composing takes no low character away. -/
theorem mem_normalize (hlow : n < 0x3C) {ns : List Nat} (h : n ∈ ns) : n ∈ normalize ns := by
  unfold normalize
  split
  · exact h
  · have hparts : n ∈ reorder (decompose ns) := mem_reorderFrom (.inr (mem_decompose (by omega) h))
    exact mem_composeFrom hlow _ 0 (.inr hparts)

end ProxyRouting.Unicode
