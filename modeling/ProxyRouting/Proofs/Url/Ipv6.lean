import Mathlib.Data.List.TakeWhile
import ProxyRouting.Proofs.Text.Digit
import ProxyRouting.Proofs.Url.Name

/-!
# IPv6 addresses are read back

Groups with colons between them are read one by one; where two colons stand, a zero is read and its
place kept, and the zeros that are missing are filled in there.  They are the zeros of the gap that
was left out in writing.

    readGroups room done gap (colonSeparated groups) = some ⟨done.reverse ++ groups, gap⟩
    parse? a.text = some a                                    (groups below 65536, parse?_text)
    parse? s = some a → the groups of a are below 65536                              (parse?_lt)
-/

namespace ProxyRouting.Url.Ipv6

open Text (hexValue? number?)

/-! ## Groups -/

theorem colonSeparated_cons {n : Nat} {groups : List Nat} (h : groups ≠ []) :
    colonSeparated (n :: groups) = Nat.toDigits 16 n ++ ':' :: colonSeparated groups := by
  obtain ⟨m, more, rfl⟩ := List.exists_cons_of_ne_nil h
  simp [colonSeparated, List.intercalate_cons_cons]

theorem colonSeparated_singleton (n : Nat) : colonSeparated [n] = Nat.toDigits 16 n := by
  simp [colonSeparated]

theorem group_toDigits (n : Nat) : group (Nat.toDigits 16 n) = n := by
  rw [group, Text.number?_toDigits (by decide) (by decide), Option.getD_some]

theorem hexValue?_of_mem_toDigits {n : Nat} {c : Char} (h : c ∈ Nat.toDigits 16 n) :
    (hexValue? c).isSome = true :=
  Text.hexValue?_of_mem_toDigits (by decide) (by decide) h

/-- The digits of a group are read up to what follows them. -/
theorem takeWhile_toDigits {n : Nat} (hn : n < 65536) {rest : List Char}
    (hrest : ∀ c ∈ rest.head?, c = ':') :
    ((Nat.toDigits 16 n ++ rest).take 4).takeWhile (fun c => (hexValue? c).isSome) =
      Nat.toDigits 16 n := by
  have hlen : (Nat.toDigits 16 n).length ≤ 4 :=
    (Nat.length_toDigits_le_iff (by decide) (by decide)).mpr (by simpa using hn)
  have hdigits : ∀ c ∈ Nat.toDigits 16 n, (hexValue? c).isSome = true := fun c =>
    hexValue?_of_mem_toDigits
  rw [List.take_append, List.take_of_length_le hlen, List.takeWhile_append_of_pos hdigits]
  cases rest with
  | nil => simp
  | cons c t =>
    obtain rfl := hrest c rfl
    cases 4 - (Nat.toDigits 16 n).length with
    | zero => simp
    | succ k => simp [hexValue?]

/-- One group, and what is done after it. -/
theorem readGroups_toDigits {n room : Nat} (hn : n < 65536) {done : List Nat} {gap : Option Nat}
    {rest : List Char} (hrest : ∀ c ∈ rest.head?, c = ':') :
    readGroups (room + 1) done gap (Nat.toDigits 16 n ++ rest) =
      match rest with
      | [] => some ⟨(n :: done).reverse, gap⟩
      | _ :: rest => if rest.isEmpty then none else readGroups room (n :: done) gap rest := by
  have htake := takeWhile_toDigits hn hrest
  obtain ⟨c, t, hct⟩ := List.exists_cons_of_ne_nil (Nat.toDigits_ne_nil (b := 16) (n := n))
  have hc : c ≠ ':' := by
    rintro rfl
    have hmem : ':' ∈ Nat.toDigits 16 n := by rw [hct]; exact List.mem_cons_self
    exact absurd (hexValue?_of_mem_toDigits hmem) (by decide)
  have hdrop : (Nat.toDigits 16 n ++ rest).drop (Nat.toDigits 16 n).length = rest :=
    List.drop_left
  have hgroup := group_toDigits n
  rw [hct, List.cons_append] at htake hdrop
  rw [hct] at hgroup
  rw [hct, List.cons_append, readGroups, if_neg (by simpa using hc)]
  simp only [htake, hdrop, hgroup]
  cases rest with
  | nil => rfl
  | cons d rest =>
    obtain rfl := hrest d rfl
    simp

/-! ## Lists of groups -/

theorem colonSeparated_ne_nil {groups : List Nat} (h : groups ≠ []) :
    colonSeparated groups ≠ [] := by
  obtain ⟨n, more, rfl⟩ := List.exists_cons_of_ne_nil h
  by_cases hmore : more = []
  · rw [hmore, colonSeparated_singleton]
    exact Nat.toDigits_ne_nil
  · rw [colonSeparated_cons hmore]
    simp

/-- All groups that there is room for. -/
theorem readGroups_colonSeparated (groups : List Nat) : ∀ {room : Nat} {done : List Nat}
    {gap : Option Nat}, (∀ n ∈ groups, n < 65536) → groups.length ≤ room →
      readGroups room done gap (colonSeparated groups) = some ⟨done.reverse ++ groups, gap⟩ := by
  induction groups with
  | nil =>
    intro room done gap _ _
    simp [colonSeparated, readGroups]
  | cons n groups ih =>
    intro room done gap hall hroom
    obtain ⟨room, rfl⟩ : ∃ r, room = r + 1 := ⟨room - 1, by simp at hroom; omega⟩
    have hn := hall n List.mem_cons_self
    by_cases hmore : groups = []
    · have hlast : readGroups (room + 1) done gap (Nat.toDigits 16 n ++ []) =
          some ⟨(n :: done).reverse, gap⟩ := readGroups_toDigits hn (by simp)
      rw [List.append_nil] at hlast
      rw [hmore, colonSeparated_singleton, hlast]
      simp
    · have hrest : readGroups room (n :: done) gap (colonSeparated groups) =
          some ⟨(n :: done).reverse ++ groups, gap⟩ :=
        ih (fun m hm => hall m (List.mem_cons_of_mem _ hm)) (by simpa using hroom)
      rw [colonSeparated_cons hmore, readGroups_toDigits hn (by simp)]
      simp only [List.isEmpty_eq_false_iff.mpr (colonSeparated_ne_nil hmore), Bool.false_eq_true,
        if_false, hrest]
      simp

/-- Groups before two colons, for which a zero is read. -/
theorem readGroups_gap (groups : List Nat) : ∀ {room : Nat} {done : List Nat} {rest : List Char},
    groups ≠ [] → (∀ n ∈ groups, n < 65536) → groups.length ≤ room →
      readGroups (room + 1) done none (colonSeparated groups ++ ':' :: ':' :: rest) =
        readGroups (room - groups.length) (0 :: (groups.reverse ++ done))
          (some (done.length + groups.length + 1)) rest := by
  induction groups with
  | nil => exact fun h => absurd rfl h
  | cons n groups ih =>
    intro room done rest _ hall hroom
    obtain ⟨room, rfl⟩ : ∃ r, room = r + 1 := ⟨room - 1, by simp at hroom; omega⟩
    have hn := hall n List.mem_cons_self
    by_cases hmore : groups = []
    · subst hmore
      rw [colonSeparated_singleton, readGroups_toDigits hn (by simp)]
      simp [readGroups]
    · have hrest : readGroups (room + 1) (n :: done) none
            (colonSeparated groups ++ ':' :: ':' :: rest) =
          readGroups (room - groups.length) (0 :: (groups.reverse ++ n :: done))
            (some ((n :: done).length + groups.length + 1)) rest :=
        ih hmore (fun m hm => hall m (List.mem_cons_of_mem _ hm)) (by simpa using hroom)
      rw [colonSeparated_cons hmore, List.append_assoc, List.cons_append,
        readGroups_toDigits hn (by simp)]
      have hne : (colonSeparated groups ++ ':' :: ':' :: rest).isEmpty = false := by simp
      simp only [hne, Bool.false_eq_true, if_false, hrest]
      have hlength : room + 1 - (n :: groups).length = room - groups.length := by simp
      rw [hlength]
      simp [Nat.add_comm, Nat.add_left_comm]

/-! ## The gap -/

theorem replicate_zerosAhead (groups : List Nat) {k : Nat} (h : k ≤ zerosAhead groups) :
    groups = List.replicate k 0 ++ groups.drop k := by
  have hprefix : List.replicate (zerosAhead groups) 0 <+: groups := by
    have htake : groups.takeWhile (· == 0) = List.replicate (zerosAhead groups) 0 := by
      refine List.eq_replicate_iff.mpr ⟨rfl, fun n hn => ?_⟩
      simpa using List.mem_takeWhile_imp hn
    rw [← htake]
    exact List.takeWhile_prefix _
  have hk : List.replicate k 0 <+: groups := by
    refine List.IsPrefix.trans ?_ hprefix
    rw [show zerosAhead groups = k + (zerosAhead groups - k) by omega, ← List.replicate_append_replicate]
    exact List.prefix_append _ _
  have := List.prefix_iff_eq_append.mp hk
  rw [List.length_replicate] at this
  exact this.symm

/-- What is left out is zeros. -/
theorem longestGap_zeros (groups : List Nat) :
    (longestGap groups).2 ≤ zerosAhead (groups.drop (longestGap groups).1) := by
  unfold longestGap
  refine List.foldlRecOn (motive := fun best : Nat × Nat => best.2 ≤ zerosAhead (groups.drop best.1)) _ _
    (Nat.zero_le _) fun best hbest i _ => ?_
  dsimp only
  split
  · exact Nat.le_refl _
  · exact hbest

/-- An address is its groups around the gap. -/
theorem groups_eq (a : Ipv6) {start length : Nat}
    (h : longestGap a.groups.toList = (start, length)) :
    a.groups.toList = a.groups.toList.take start ++ (List.replicate length 0 ++
      a.groups.toList.drop (start + length)) := by
  have hzeros := longestGap_zeros a.groups.toList
  rw [h] at hzeros
  have hdrop := replicate_zerosAhead _ hzeros
  rw [List.drop_drop] at hdrop
  rw [← hdrop, List.take_append_drop]

theorem dif_groups {a : Ipv6} {groups : List Nat} (h : groups = a.groups.toList) :
    (if h : groups.length = 8 then some (⟨⟨groups.toArray, by simp [h]⟩⟩ : Ipv6) else none) =
      some a := by
  subst h
  rw [dif_pos (by simp)]
  obtain ⟨⟨groups, hsize⟩⟩ := a
  rfl

/-- The zero that is read in the place of the gap, and those that are missing, are the gap. -/
theorem address?_gap {a : Ipv6} {before after : List Nat} {length : Nat} (hlength : 0 < length)
    (h : a.groups.toList = before ++ (List.replicate length 0 ++ after)) :
    Draft.address? ⟨before ++ 0 :: after, some (before.length + 1)⟩ = some a := by
  have hlen := congrArg List.length h
  simp only [Vector.length_toList, List.length_append, List.length_replicate] at hlen
  have htake : (before ++ 0 :: after).take (before.length + 1) = before ++ [0] := by
    have htext : before ++ 0 :: after = (before ++ [0]) ++ after := by simp
    rw [htext]
    exact List.take_left' (by simp)
  have hdrop : (before ++ 0 :: after).drop (before.length + 1) = after := by
    simp [List.drop_append]
  have hmissing : 8 - (before ++ 0 :: after).length = length - 1 := by
    simp only [List.length_append, List.length_cons]
    omega
  have hzeros : List.replicate length 0 = 0 :: List.replicate (length - 1) 0 := by
    rw [← List.replicate_succ]
    congr
    omega
  refine dif_groups ?_
  simp only [htake, hdrop, hmissing]
  rw [h, hzeros]
  simp

/-- A text that starts with a group is read from its first group on. -/
theorem parse?_of_group {s : List Char} (hfirst : s.head? ≠ some ':') (hlen : 2 ≤ s.length) :
    parse? s = (readGroups 8 [] none s).bind Draft.address? := by
  match s with
  | [] | [_] => simp at hlen
  | c :: d :: t =>
    have hc : c ≠ ':' := by simpa using hfirst
    unfold parse?
    split
    · next h =>
      cases h
      exact absurd rfl hc
    · next h =>
      cases h
      exact absurd rfl hc
    · next h => cases h
    · next h => cases h
    · rfl

theorem head?_colonSeparated {groups : List Nat} (h : groups ≠ []) (rest : List Char) :
    (colonSeparated groups ++ rest).head? ≠ some ':' := by
  obtain ⟨n, more, rfl⟩ := List.exists_cons_of_ne_nil h
  obtain ⟨c, t, hct⟩ := List.exists_cons_of_ne_nil (Nat.toDigits_ne_nil (b := 16) (n := n))
  have hfirst : ∃ u, colonSeparated (n :: more) ++ rest = c :: u := by
    by_cases hmore : more = []
    · rw [hmore, colonSeparated_singleton, hct]
      exact ⟨_, rfl⟩
    · rw [colonSeparated_cons hmore, hct]
      exact ⟨_, rfl⟩
  obtain ⟨u, hu⟩ := hfirst
  rw [hu]
  rintro ⟨⟩
  have hmem : ':' ∈ Nat.toDigits 16 n := by rw [hct]; exact List.mem_cons_self
  exact absurd (hexValue?_of_mem_toDigits hmem) (by decide)

theorem two_le_length_colonSeparated {groups : List Nat} (h : 2 ≤ groups.length) :
    2 ≤ (colonSeparated groups).length := by
  match groups with
  | [] | [_] => simp at h
  | n :: m :: more =>
    have := Nat.length_toDigits_pos (b := 16) (n := n)
    rw [colonSeparated_cons (List.cons_ne_nil m more), List.length_append, List.length_cons]
    omega

/-- Nothing but hexadecimal digits and colons is written. -/
theorem isPlain_text (a : Ipv6) : ∀ c ∈ a.text, (hexValue? c).isSome = true ∨ c = ':' := by
  have hseparated (groups : List Nat) :
      ∀ c ∈ colonSeparated groups, (hexValue? c).isSome = true ∨ c = ':' := by
    induction groups with
    | nil => simp [colonSeparated]
    | cons n groups ih =>
      intro c hc
      by_cases hmore : groups = []
      · rw [hmore, colonSeparated_singleton] at hc
        exact .inl (hexValue?_of_mem_toDigits hc)
      · rw [colonSeparated_cons hmore, List.mem_append, List.mem_cons] at hc
        rcases hc with hc | hc | hc
        · exact .inl (hexValue?_of_mem_toDigits hc)
        · exact .inr hc
        · exact ih c hc
  intro c hc
  unfold text at hc
  simp only at hc
  split at hc
  · exact hseparated _ c hc
  · simp only [List.mem_append] at hc
    rcases hc with (hc | hc) | hc
    · exact hseparated _ c hc
    · right
      simpa using hc
    · exact hseparated _ c hc

/-- Groups around a gap are read as the address that has zeros in it. -/
theorem parse?_gap {a : Ipv6} {before after : List Nat} {length : Nat} (hlength : 0 < length)
    (hgroups : a.groups.toList = before ++ (List.replicate length 0 ++ after))
    (hbefore : ∀ n ∈ before, n < 65536) (hafter : ∀ n ∈ after, n < 65536) :
    parse? (colonSeparated before ++ "::".toList ++ colonSeparated after) = some a := by
  have haddress := address?_gap hlength hgroups
  have hsum := congrArg List.length hgroups
  simp only [Vector.length_toList, List.length_append, List.length_replicate] at hsum
  have htext : colonSeparated before ++ "::".toList ++ colonSeparated after =
      colonSeparated before ++ ':' :: ':' :: colonSeparated after := by simp
  by_cases hnone : before = []
  · subst hnone
    have hrest : readGroups 7 [0] (some 1) (colonSeparated after) =
        some ⟨[0].reverse ++ after, some 1⟩ :=
      readGroups_colonSeparated _ hafter (by simp at hsum; omega)
    show (readGroups 7 [0] (some 1) (colonSeparated after)).bind Draft.address? = some a
    rw [hrest]
    exact haddress
  · have hfirst : readGroups 8 [] none (colonSeparated before ++ ':' :: ':' :: colonSeparated after)
        = readGroups (7 - before.length) (0 :: (before.reverse ++ []))
          (some (0 + before.length + 1)) (colonSeparated after) :=
      readGroups_gap before hnone hbefore (by omega)
    have hrest : readGroups (7 - before.length) (0 :: (before.reverse ++ []))
        (some (0 + before.length + 1)) (colonSeparated after) =
      some ⟨(0 :: (before.reverse ++ [])).reverse ++ after, some (0 + before.length + 1)⟩ :=
      readGroups_colonSeparated _ hafter (by omega)
    have hlong : 2 ≤ (colonSeparated before ++ ':' :: ':' :: colonSeparated after).length := by
      simp only [List.length_append, List.length_cons]
      omega
    rw [htext, parse?_of_group (head?_colonSeparated hnone _) hlong, hfirst, hrest]
    simpa using haddress

/-! ## Top theorem -/

/-- **An address is read back from its text.** -/
theorem parse?_text {a : Ipv6} (h : ∀ n ∈ a.groups.toList, n < 65536) :
    parse? a.text = some a := by
  have hlen : a.groups.toList.length = 8 := by simp
  cases hgap : longestGap a.groups.toList with
  | mk start length =>
    unfold text
    simp only [hgap]
    by_cases hshort : length < 2
    · have hne : a.groups.toList ≠ [] := List.ne_nil_of_length_pos (by omega)
      have hread : readGroups 8 [] none (colonSeparated a.groups.toList) =
          some ⟨[].reverse ++ a.groups.toList, none⟩ :=
        readGroups_colonSeparated _ h (Nat.le_of_eq hlen)
      have hfirst := head?_colonSeparated hne []
      rw [List.append_nil] at hfirst
      rw [if_pos hshort, parse?_of_group hfirst (two_le_length_colonSeparated (by omega)), hread]
      exact dif_groups (by simp)
    · rw [if_neg hshort]
      refine parse?_gap (by omega) (groups_eq a hgap) (fun n hn => h n ?_) fun n hn => h n ?_
      · exact List.mem_of_mem_take hn
      · exact List.mem_of_mem_drop hn

/-! ## What is read -/

/-- At most four digits are taken for a group. -/
theorem group_lt {digits : List Char} (h : digits.length ≤ 4) : group digits < 65536 := by
  unfold group
  cases hn : number? 16 digits with
  | none => exact Nat.two_pow_pos 16
  | some n =>
    have hlt := Text.number?_lt hn
    have hpow : 16 ^ digits.length ≤ 16 ^ 4 := Nat.pow_le_pow_right (by decide) h
    exact Nat.lt_of_lt_of_le hlt hpow

theorem length_digits_le (s : List Char) (p : Char → Bool) :
    ((s.take 4).takeWhile p).length ≤ 4 :=
  (List.takeWhile_sublist p).length_le.trans (List.length_take_le 4 s)

theorem dotted?_lt {s : List Char} {r : Nat × Nat} (h : dotted? s = some r) :
    r.1 < 65536 ∧ r.2 < 65536 := by
  have hbyte {piece : List Char} {n : Nat} (h : byte? piece = some n) : n < 256 := by
    unfold byte? at h
    split at h
    · cases h
    · exact of_decide_eq_true (Option.filter_eq_some_iff.mp h).2
  unfold dotted? at h
  split at h
  · next a b c d hbytes =>
    have hall : ∀ n ∈ [a, b, c, d], n < 256 := fun n hn =>
      have ⟨_, _, hpiece⟩ := exists_of_mapM_eq_some hbytes hn
      hbyte hpiece
    simp only [List.mem_cons, List.not_mem_nil, or_false, forall_eq_or_imp, forall_eq] at hall
    cases h
    constructor <;> omega
  · cases h

theorem readGroups_lt {room : Nat} {done : List Nat} {gap : Option Nat} {s : List Char} {d : Draft}
    (h : readGroups room done gap s = some d) (hdone : ∀ n ∈ done, n < 65536) :
    ∀ n ∈ d.groups, n < 65536 := by
  induction room generalizing done gap s with
  | zero =>
    cases s with
    | nil =>
      cases h
      simpa using hdone
    | cons c s => cases h
  | succ room ih =>
    cases s with
    | nil =>
      cases h
      simpa using hdone
    | cons c s =>
      by_cases hc : (c == ':') = true
      · rw [readGroups, if_pos hc] at h
        split at h
        · cases h
        · exact ih h (by simpa using hdone)
      · have hgroup := group_lt (length_digits_le (c :: s) fun c => (hexValue? c).isSome)
        rw [readGroups, if_neg hc] at h
        simp only at h
        split at h
        · cases h
          simpa [or_imp, forall_and] using ⟨hdone, hgroup⟩
        · split at h
          · cases h
          · exact ih h (by simpa using ⟨hgroup, hdone⟩)
        · split at h
          · cases h
          · obtain ⟨r, hr, rfl⟩ := Option.map_eq_some_iff.mp h
            have hbytes := dotted?_lt hr
            simpa [or_imp, forall_and] using ⟨hdone, hbytes⟩
        · cases h

theorem address?_lt {d : Draft} {a : Ipv6} (h : d.address? = some a)
    (hd : ∀ n ∈ d.groups, n < 65536) : ∀ n ∈ a.groups.toList, n < 65536 := by
  unfold Draft.address? at h
  cases hgap : d.gap with
  | none =>
    simp only [hgap] at h
    split at h
    · cases h
      exact fun n hn => hd n (by simpa using hn)
    · cases h
  | some k =>
    simp only [hgap] at h
    split at h
    · cases h
      intro n hn
      have hmem : n ∈ d.groups.take k ∨ n ∈ List.replicate (8 - d.groups.length) 0 ∨
          n ∈ d.groups.drop k := by simpa using hn
      rcases hmem with hmem | hmem | hmem
      · exact hd n (List.mem_of_mem_take hmem)
      · rw [(List.mem_replicate.mp hmem).2]
        exact Nat.two_pow_pos 16
      · exact hd n (List.mem_of_mem_drop hmem)
    · cases h

/-- The groups of an address that is read have sixteen bits. -/
theorem parse?_lt {s : List Char} {a : Ipv6} (h : parse? s = some a) :
    ∀ n ∈ a.groups.toList, n < 65536 := by
  unfold parse? at h
  simp only at h
  split at h
  · obtain ⟨d, hd, ha⟩ := Option.bind_eq_some_iff.mp h
    exact address?_lt ha (readGroups_lt hd (by simp))
  · cases h
  · cases h
  · cases h
  · obtain ⟨d, hd, ha⟩ := Option.bind_eq_some_iff.mp h
    exact address?_lt ha (readGroups_lt hd (by simp))

/-- An address is written with a colon. -/
theorem colon_mem_text (a : Ipv6) : ':' ∈ a.text := by
  unfold text
  simp only
  split
  · have hlength : a.groups.toList.length = 8 := by simp
    match hgroups : a.groups.toList, hlength with
    | n :: m :: rest, _ =>
      rw [colonSeparated_cons (List.cons_ne_nil m rest)]
      simp
  · simp

end ProxyRouting.Url.Ipv6
