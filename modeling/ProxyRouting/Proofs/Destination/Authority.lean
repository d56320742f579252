import Mathlib.Data.List.TakeWhile
import ProxyRouting.Destination.Uri
import ProxyRouting.Proofs.Text.Cut

/-!
# Where an authority starts and ends

It starts after the first mark and ends at the first delimiter.

    cutAt? authorityMark (a ++ s) = cutAt? authorityMark s, with a before it      (no colon in a)
    upToDelimiter (a ++ b) = a ++ upToDelimiter b                             (no delimiter in a)
-/

namespace ProxyRouting.Destination

open Text (cutAt?)

theorem cutAt?_mark_append {a : List Char} (h : ':' ∉ a) (s : List Char) :
    cutAt? authorityMark (a ++ s) = (cutAt? authorityMark s).map fun r => (a ++ r.1, r.2) :=
  Text.cutAt?_append_of_not_mem h s

theorem upToDelimiter_append {a : List Char} (h : ∀ c ∈ a, isDelimiter c = false)
    (b : List Char) : upToDelimiter (a ++ b) = a ++ upToDelimiter b :=
  List.takeWhile_append_of_pos fun c hc => by rw [h c hc]; rfl

theorem upToDelimiter_eq_self {a : List Char} (h : ∀ c ∈ a, isDelimiter c = false) :
    upToDelimiter a = a :=
  List.takeWhile_eq_self_iff.mpr fun c hc => by rw [h c hc]; rfl

/-- A delimiter ends the text before whatever follows. -/
theorem upToDelimiter_append_of_delimiter {a : List Char}
    (h : ¬ ∀ c ∈ a, isDelimiter c = false) (b : List Char) :
    upToDelimiter (a ++ b) = upToDelimiter a ∧ (upToDelimiter a).length < a.length := by
  have hlen : (upToDelimiter a).length ≠ a.length := by
    intro he
    have hall : upToDelimiter a = a := (List.takeWhile_prefix _).eq_of_length he
    refine h fun c hc => ?_
    rw [← hall] at hc
    simpa using List.mem_takeWhile_imp hc
  have hle := (List.takeWhile_prefix (l := a) fun c => !isDelimiter c).length_le
  refine ⟨?_, Nat.lt_of_le_of_ne hle hlen⟩
  unfold upToDelimiter at hlen ⊢
  rw [List.takeWhile_append, if_neg hlen]

theorem upToDelimiter_append_drop (s : List Char) :
    upToDelimiter s ++ s.drop (upToDelimiter s).length = s :=
  List.prefix_iff_eq_append.mp (List.takeWhile_prefix _)

end ProxyRouting.Destination
