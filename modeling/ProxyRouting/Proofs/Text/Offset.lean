import Mathlib.Data.List.Basic

/-!
# Places in a text, told by bytes

A place is told by the number of bytes that stand before it.  A text can be cut there unless the
place is past its end or inside of a character.

    cutAtByte? n s = some (a, b) ↔ s = a ++ b ∧ byteLength a = n
    (cutAtByte? n s).isSome ↔ String.Pos.Raw.IsValid (String.ofList s) ⟨n⟩
-/

namespace ProxyRouting.Text

/-- The number of bytes of a text. -/
def byteLength (s : List Char) : Nat :=
  (String.ofList s).utf8ByteSize

/-- Cuts at a place told by bytes. -/
def cutAtByte? : Nat → List Char → Option (List Char × List Char)
  | 0, s => some ([], s)
  | _ + 1, [] => none
  | n + 1, c :: rest =>
    if c.utf8Size ≤ n + 1 then
      (cutAtByte? (n + 1 - c.utf8Size) rest).map fun r => (c :: r.1, r.2)
    else none

/-- What stands before a place. -/
def takeBytes? (n : Nat) (s : List Char) : Option (List Char) :=
  (cutAtByte? n s).map Prod.fst

/-- What stands after a place. -/
def dropBytes? (n : Nat) (s : List Char) : Option (List Char) :=
  (cutAtByte? n s).map Prod.snd

variable {n : Nat} {s a b : List Char}

theorem byteLength_cons (c : Char) (s : List Char) :
    byteLength (c :: s) = c.utf8Size + byteLength s := by
  simp [byteLength]

theorem byteLength_append (a b : List Char) :
    byteLength (a ++ b) = byteLength a + byteLength b := by
  simp [byteLength]

theorem cutAtByte?_cons {c : Char} (h : c.utf8Size ≤ n) (s : List Char) :
    cutAtByte? n (c :: s) = (cutAtByte? (n - c.utf8Size) s).map fun r => (c :: r.1, r.2) := by
  have hpos := c.utf8Size_pos
  cases n with
  | zero => omega
  | succ n => rw [cutAtByte?, if_pos h]

theorem cutAtByte?_append (a b : List Char) : cutAtByte? (byteLength a) (a ++ b) = some (a, b) := by
  induction a with
  | nil => exact cutAtByte?.eq_1 b
  | cons c a ih =>
    rw [byteLength_cons, List.cons_append, cutAtByte?_cons (Nat.le_add_right ..),
      Nat.add_sub_cancel_left, ih]
    rfl

theorem cutAtByte?_eq_some_iff : cutAtByte? n s = some (a, b) ↔ s = a ++ b ∧ byteLength a = n := by
  constructor
  · intro h
    induction n, s using cutAtByte?.induct generalizing a with
    | case1 s =>
      rw [cutAtByte?] at h
      cases h
      exact ⟨rfl, rfl⟩
    | case2 n => cases h
    | case3 n c s hle ih =>
      rw [cutAtByte?_cons hle] at h
      obtain ⟨⟨a', b'⟩, hr, he⟩ := Option.map_eq_some_iff.mp h
      cases he
      obtain ⟨rfl, hlen⟩ := ih hr
      refine ⟨rfl, ?_⟩
      rw [byteLength_cons, hlen]
      omega
    | case4 n c s hlt =>
      rw [cutAtByte?, if_neg hlt] at h
      cases h
  · rintro ⟨rfl, rfl⟩
    exact cutAtByte?_append a b

theorem takeBytes?_eq (hs : s = a ++ b) (hn : n = byteLength a) : takeBytes? n s = some a := by
  rw [takeBytes?, hs, hn, cutAtByte?_append]
  rfl

theorem dropBytes?_eq (hs : s = a ++ b) (hn : n = byteLength a) : dropBytes? n s = some b := by
  rw [dropBytes?, hs, hn, cutAtByte?_append]
  rfl

/-- The places where a text can be cut are its valid positions. -/
theorem isSome_cutAtByte?_iff :
    (cutAtByte? n s).isSome ↔ String.Pos.Raw.IsValid (String.ofList s) ⟨n⟩ := by
  rw [String.Pos.Raw.isValid_iff_exists_append, Option.isSome_iff_exists]
  constructor
  · rintro ⟨⟨a, b⟩, h⟩
    obtain ⟨rfl, rfl⟩ := cutAtByte?_eq_some_iff.mp h
    exact ⟨String.ofList a, String.ofList b, String.ofList_append, rfl⟩
  · rintro ⟨t, u, htext, hn⟩
    refine ⟨(t.toList, u.toList), cutAtByte?_eq_some_iff.mpr ⟨?_, ?_⟩⟩
    · rw [← String.toList_append, ← htext, String.toList_ofList]
    · rw [byteLength, String.ofList_toList]
      exact congrArg String.Pos.Raw.byteIdx hn.symm

theorem isValid_of_takeBytes? (h : takeBytes? n s = some a) :
    String.Pos.Raw.IsValid (String.ofList s) ⟨n⟩ := by
  obtain ⟨r, hr, -⟩ := Option.map_eq_some_iff.mp h
  rw [← isSome_cutAtByte?_iff, hr, Option.isSome_some]

theorem isValid_of_dropBytes? (h : dropBytes? n s = some b) :
    String.Pos.Raw.IsValid (String.ofList s) ⟨n⟩ := by
  obtain ⟨r, hr, -⟩ := Option.map_eq_some_iff.mp h
  rw [← isSome_cutAtByte?_iff, hr, Option.isSome_some]

end ProxyRouting.Text
