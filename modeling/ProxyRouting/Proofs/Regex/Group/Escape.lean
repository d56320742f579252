import ProxyRouting.Proofs.Regex.Group.Basic

/-!
# Escapes in a group

Every reader of what may follow a backslash is steady: numbers, properties, boundaries of words, and
so the escape as a whole.
-/

namespace ProxyRouting.Regex

open Text (hexValue?)

theorem readHexDigits_steady (blanks : Bool) (count : Nat) :
    ∀ value, Steady (readHexDigits blanks count value) := by
  induction count with
  | zero => exact fun value => .ok value
  | succ count ih =>
    intro value
    refine .of_cons rfl fun c => ?_
    simp only [readHexDigits]
    cases hexValue? c with
    | none => exact .error _
    | some d => exact (ih _).skip blanks

theorem readHexBraced_steady (blanks seen : Bool) (value : Nat) :
    Steady (readHexBraced blanks seen value) := by
  intro s
  fun_induction readHexBraced blanks seen value s with
  | case1 seen value =>
    intro x rest h
    cases h
  | case2 value c s hc =>
    intro x rest h
    cases h
    refine ⟨(skip_suffix blanks s).trans (List.suffix_cons c s), fun body t ht => ?_⟩
    obtain rfl := ht.cons
    exact ⟨_, by rw [readHexBraced, if_pos hc, if_pos rfl], ht.tail.skip blanks⟩
  | case3 seen value c s hc hseen =>
    intro x rest h
    cases h
  | case4 seen value c s hc d hd _ ih =>
    intro x rest h
    obtain ⟨hsuffix, hgroup⟩ := ih x rest h
    refine ⟨hsuffix.trans ((skip_suffix blanks s).trans (List.suffix_cons c s)),
      fun body t ht => ?_⟩
    obtain rfl := ht.cons
    obtain ⟨rest', hrest, hin⟩ := hgroup _ _ (ht.tail.skip blanks)
    refine ⟨rest', ?_, hin⟩
    rw [readHexBraced, if_neg hc, hd]
    exact hrest
  | case5 seen value c s hc hd =>
    intro x rest h
    cases h

/-- The character with a number that has been read. -/
def hexLiteral (isByte : Bool) (n : Nat) (s : List Char) : Except Fault (Literal × List Char) :=
  match scalar? n with
  | some c => .ok (⟨c, isByte⟩, s)
  | none => .error .hexInvalid

theorem hexLiteral_steady (isByte : Bool) (n : Nat) : Steady (hexLiteral isByte n) := by
  unfold hexLiteral
  cases scalar? n with
  | none => exact .error _
  | some c => exact .ok _

theorem readHex_steady (blanks : Bool) (digits : Nat) : Steady (readHex blanks digits) := by
  refine .of_skip blanks (fun s hs => ⟨.escapeEnd, by rw [readHex, hs]⟩) fun c => ?_
  by_cases hc : c = '\x7b'
  · rw [hc]
    have hbraced :=
      ((readHexBraced_steady blanks false 0).skip blanks).bind (hexLiteral_steady false)
    refine ⟨_, hbraced, .inl fun s more hs => ?_⟩
    rw [readHex, hs]
    rfl
  · have hdigits := (readHexDigits_steady blanks digits 0).bind
      (hexLiteral_steady (digits == 2))
    refine ⟨_, hdigits, .inr fun s more hs => ?_⟩
    rw [readHex, hs]
    split
    · next heq => cases heq
    · next heq => exact absurd (List.cons.inj heq).1 hc
    · rfl

theorem readBraced_steady (blanks : Bool) : Steady (readBraced blanks) := by
  intro s
  fun_induction readBraced blanks s with
  | case1 =>
    intro x rest h
    cases h
  | case2 c s hc =>
    intro x rest h
    cases h
    refine ⟨List.suffix_cons c s, fun body t ht => ?_⟩
    obtain rfl := ht.cons
    exact ⟨_, by rw [readBraced, if_pos hc], ht.tail⟩
  | case3 c s hc _ ih =>
    intro x rest h
    obtain ⟨r, hr, hx⟩ := map_ok_iff.mp h
    cases hx
    obtain ⟨hsuffix, hgroup⟩ := ih r.1 r.2 hr
    refine ⟨hsuffix.trans ((skip_suffix blanks s).trans (List.suffix_cons c s)),
      fun body t ht => ?_⟩
    obtain rfl := ht.cons
    obtain ⟨rest', hrest, hin⟩ := hgroup _ _ (ht.tail.skip blanks)
    refine ⟨rest', ?_, hin⟩
    rw [readBraced, if_neg hc, hrest]
    rfl

theorem readProperty_steady (blanks : Bool) : Steady (readProperty blanks) := by
  refine .of_skip blanks (fun s hs => ⟨.escapeEnd, by rw [readProperty, hs]⟩) fun c => ?_
  by_cases hbrace : c = '\x7b'
  · rw [hbrace]
    have hname := ((readBraced_steady blanks).skip blanks).bind fun name =>
      .ok (PropertyName.ofText name)
    refine ⟨_, hname, .inl fun s more hs => ?_⟩
    rw [readProperty, hs]
    rfl
  · by_cases hslash : c = '\\'
    · rw [hslash]
      refine ⟨_, .error .propertyMalformed, .inl fun s more hs => ?_⟩
      simp [readProperty, hs]
    · refine ⟨_, .ok (PropertyName.single [c]), .inl fun s more hs => ?_⟩
      simp [readProperty, hs]

theorem readLetters_steady (blanks : Bool) : SteadyPair (readLetters blanks) := by
  intro s
  fun_induction readLetters blanks s with
  | case1 =>
    refine ⟨List.suffix_refl _, fun body t ht => ?_⟩
    have hread : readLetters blanks t = ([], t) := by
      rcases ht.nil with rfl | rfl
      · simp [readLetters, closing]
      · rw [readLetters]
    rw [hread]
    exact ⟨rfl, ht⟩
  | case2 c s hc _ r ih =>
    obtain ⟨hsuffix, hgroup⟩ := ih
    refine ⟨hsuffix.trans ((skip_suffix blanks s).trans (List.suffix_cons c s)),
      fun body t ht => ?_⟩
    obtain rfl := ht.cons
    obtain ⟨hfst, hsnd⟩ := hgroup _ _ (ht.tail.skip blanks)
    rw [readLetters, if_pos hc]
    exact ⟨congrArg (c :: ·) hfst, hsnd⟩
  | case3 c s hc =>
    refine ⟨List.suffix_refl _, fun body t ht => ?_⟩
    obtain rfl := ht.cons
    rw [readLetters, if_neg hc]
    exact ⟨rfl, ht⟩

theorem readBoundary_steady (blanks : Bool) : Steady (readBoundary blanks) := by
  have hnamed (name : List Char) := Steady.ite (name == "start".toList) (.ok Assertion.wordStart)
    (.ite (name == "end".toList) (.ok .wordEnd)
      (.ite (name == "start-half".toList) (.ok .wordStartHalf)
        (.ite (name == "end-half".toList) (.ok .wordEndHalf) (.error .wordBoundaryUnknown))))
  intro s x rest h
  unfold readBoundary at h
  split at h
  · next more =>
    split at h
    · cases h
    · next c more' hskip =>
      have hskipped := (InGroup.refl more).skip blanks
      have hmore := skip_suffix blanks more
      rw [hskip] at hskipped hmore
      split at h
      · next hletter =>
        obtain ⟨hsuffix, hletters⟩ := readLetters_steady blanks (c :: more')
        split at h
        · next name after hname =>
          rw [hname] at hsuffix hletters
          obtain ⟨hsuffix', hgroup⟩ := hnamed name after x rest h
          have hafter : after <:+ '\x7b' :: more := (List.suffix_cons _ after).trans
            (hsuffix.trans (hmore.trans (List.suffix_cons _ more)))
          refine ⟨hsuffix'.trans hafter, fun body t ht => ?_⟩
          obtain rfl := ht.cons
          obtain ⟨hfst, hsnd⟩ := hletters _ _ (.refl (c :: more'))
          have hread : readLetters blanks (c :: (more' ++ closing)) =
              (name, '\x7d' :: (after ++ closing)) := Prod.ext hfst hsnd.cons
          unfold readBoundary
          simp only [hskipped.cons, if_pos hletter, hread]
          exact hgroup _ _ (ht.append hafter)
        · cases h
      · next hletter =>
        cases h
        refine ⟨List.suffix_refl _, fun body t ht => ⟨t, ?_, ht⟩⟩
        obtain rfl := ht.cons
        unfold readBoundary
        simp only [hskipped.cons, if_neg hletter]
  · next hbrace =>
    cases h
    refine ⟨List.suffix_refl _, fun body t ht => ⟨t, ?_, ht⟩⟩
    cases s with
    | nil =>
      rcases ht.nil with rfl | rfl
      · rfl
      · rfl
    | cons c s =>
      obtain rfl := ht.cons
      unfold readBoundary
      split
      · next heq =>
        obtain ⟨rfl, -⟩ := List.cons.inj heq
        exact absurd rfl (hbrace s)
      · rfl

theorem readEscape_steady (blanks : Bool) : Steady (readEscape blanks) := by
  refine .of_cons rfl fun c => .of_ok fun s x rest h => ?_
  simp only [readEscape] at h
  split at h
  · cases h
  · next hdigit =>
    split at h
    · next hescapable =>
      simp only [readEscape, hdigit, hescapable]
      exact .ok _
    · split at h
      · exact (readHex_steady blanks 2).map _
      · exact (readHex_steady blanks 4).map _
      · exact (readHex_steady blanks 8).map _
      · exact (readProperty_steady blanks).map (Primitive.property · false)
      · exact (readProperty_steady blanks).map (Primitive.property · true)
      case h_20 => exact (readBoundary_steady blanks).map _
      case h_24 => cases h
      all_goals exact .ok _

theorem readPrimitive_steady (blanks : Bool) (c : Char) : Steady (readPrimitive blanks c) := by
  refine .of_ok fun s x rest h => ?_
  unfold readPrimitive at h
  split at h
  · exact readEscape_steady blanks
  · exact .ok _
  · exact .ok _
  · exact .ok _
  · have heq : readPrimitive blanks c = fun s => .ok (.literal (.verbatim c), s) := by
      funext s
      simp [readPrimitive]
    rw [heq]
    exact .ok _

end ProxyRouting.Regex
