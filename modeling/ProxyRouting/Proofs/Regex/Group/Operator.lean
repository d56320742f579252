import ProxyRouting.Proofs.Regex.Group.Basic

/-!
# Groups and repetitions in a group

The readers of what follows an opening parenthesis and of the bounds of a repetition are steady.
Those of digits and of blanks never fail; they end at the parenthesis that closes the group as they
do at the end of the text.
-/

namespace ProxyRouting.Regex

open Text (isBlank)

/-! ## What a parenthesis opens -/

theorem readFlags_steady (change : FlagChange) (negated dangling : Bool) :
    Steady (readFlags change negated dangling) := by
  intro s
  fun_induction readFlags change negated dangling s with
  | case1 change negated dangling =>
    intro x rest h
    cases h
  | case2 change negated c s hend =>
    intro x rest h
    cases h
  | case3 change negated dangling c s hend hdangling =>
    intro x rest h
    cases h
    refine ⟨List.suffix_cons c s, fun body t ht => ⟨_, ?_, ht.append (List.suffix_cons c s)⟩⟩
    obtain rfl := ht.cons
    rw [readFlags, if_pos hend, if_neg hdangling]
  | case4 change dangling c s hend hhyphen =>
    intro x rest h
    cases h
  | case5 change negated dangling c s hend hhyphen hnegated ih =>
    intro x rest h
    obtain ⟨hsuffix, hgroup⟩ := ih x rest h
    refine ⟨hsuffix.trans (List.suffix_cons c s), fun body t ht => ?_⟩
    obtain rfl := ht.cons
    obtain ⟨rest', hrest, hin⟩ := hgroup _ _ ht.tail
    refine ⟨rest', ?_, hin⟩
    rw [readFlags, if_neg hend, if_pos hhyphen, if_neg hnegated]
    exact hrest
  | case6 change negated dangling c s hend hhyphen hflag =>
    intro x rest h
    cases h
  | case7 change negated dangling c s hend hhyphen flag hflag htwice =>
    intro x rest h
    cases h
  | case8 change negated dangling c s hend hhyphen flag hflag htwice ih =>
    intro x rest h
    obtain ⟨hsuffix, hgroup⟩ := ih x rest h
    refine ⟨hsuffix.trans (List.suffix_cons c s), fun body t ht => ?_⟩
    obtain rfl := ht.cons
    obtain ⟨rest', hrest, hin⟩ := hgroup _ _ ht.tail
    refine ⟨rest', ?_, hin⟩
    rw [readFlags, if_neg hend, if_neg hhyphen, hflag]
    show (if _ then _ else _) = _
    rw [if_neg htwice]
    exact hrest

theorem readName_steady (first : Bool) : Steady (readName first) := by
  intro s
  fun_induction readName first s with
  | case1 first =>
    intro x rest h
    cases h
  | case2 first c s hend =>
    intro x rest h
    cases h
    refine ⟨List.suffix_cons c s, fun body t ht => ⟨_, ?_, ht.append (List.suffix_cons c s)⟩⟩
    obtain rfl := ht.cons
    rw [readName, if_pos hend]
  | case3 first c s hend hname ih =>
    intro x rest h
    obtain ⟨r, hr, heq⟩ := map_ok_iff.mp h
    cases heq
    obtain ⟨hsuffix, hgroup⟩ := ih r.1 r.2 hr
    refine ⟨hsuffix.trans (List.suffix_cons c s), fun body t ht => ?_⟩
    obtain rfl := ht.cons
    obtain ⟨rest', hrest, hin⟩ := hgroup _ _ ht.tail
    refine ⟨rest', ?_, hin⟩
    rw [readName, if_neg hend, if_pos hname, hrest]
    rfl
  | case4 first c s hend hname =>
    intro x rest h
    cases h

theorem readNamed_steady (names : List (List Char)) : Steady (readNamed names) := by
  have hopening (name : List Char) : Steady fun s =>
      if name.isEmpty then .error .groupNameEmpty
      else if names.contains name then .error .groupNameDuplicate
      else .ok (Opening.capture (some name), s) :=
    .ite _ (.error _) (.ite _ (.error _) (.ok _))
  exact (readName_steady true).bind hopening

/-- Reads flags, and makes a group of what follows them or not. -/
def openFlags (s : List Char) : Except Fault (Opening × List Char) := do
  match ← readFlags [] false false s with
  | (.inl [], _) => .error .repetitionMissing
  | (.inl change, rest) => return (.flags change, rest)
  | (.inr change, rest) => return (.group change, rest)

theorem openFlags_steady : Steady openFlags := by
  have hopening (x : FlagChange ⊕ FlagChange) : Steady fun s =>
      match (x, s) with
      | (.inl [], _) => .error .repetitionMissing
      | (.inl change, rest) => .ok (Opening.flags change, rest)
      | (.inr change, rest) => .ok (Opening.group change, rest) := by
    rcases x with (_ | ⟨change, more⟩) | change
    · exact .error _
    · exact .ok _
    · exact .ok _
  exact (readFlags_steady [] false false).bind hopening

theorem readOpening_named {s : List Char} (hequal : ∀ more, s ≠ '=' :: more)
    (hmark : ∀ more, s ≠ '!' :: more) (names : List (List Char)) :
    readOpening names ('?' :: '<' :: s) = readNamed names s := by
  unfold readOpening
  split
  case h_3 heq =>
    cases heq
    exact absurd rfl (hequal _)
  case h_4 heq =>
    cases heq
    exact absurd rfl (hmark _)
  case h_6 heq =>
    cases heq
    rfl
  case h_7 hnamed heq =>
    cases heq
    exact absurd rfl (hnamed s)
  case h_8 hopen => exact absurd rfl (hopen _)
  all_goals next heq => cases heq

theorem readOpening_flags {c : Char} (hc : c ∉ ['=', '!', '<', 'P']) (names : List (List Char))
    (s : List Char) : readOpening names ('?' :: c :: s) = openFlags (c :: s) := by
  unfold readOpening
  split
  case h_7 heq =>
    cases heq
    rfl
  case h_8 hopen => exact absurd rfl (hopen _)
  all_goals next heq =>
    cases heq
    exact absurd (by decide) hc

theorem readOpening_capture {s : List Char} (h : ∀ more, s ≠ '?' :: more)
    (names : List (List Char)) : readOpening names s = .ok (.capture none, s) := by
  unfold readOpening
  split
  case h_8 => rfl
  all_goals exact absurd rfl (h _)

/-- No flag is written with the letter that begins the older way to name a group. -/
theorem readOpening_letter {s : List Char} (h : ∀ more, s ≠ '<' :: more)
    (names : List (List Char)) :
    readOpening names ('?' :: 'P' :: s) = .error .flagUnrecognized := by
  unfold readOpening
  split
  case h_5 heq =>
    cases heq
    exact absurd rfl (h _)
  case h_7 heq =>
    cases heq
    rfl
  case h_8 hopen => exact absurd rfl (hopen _)
  all_goals next heq => cases heq

theorem readOpening_steady (names : List (List Char)) : Steady (readOpening names) := by
  intro s x rest h
  by_cases hmark : ∃ more, s = '?' :: more
  · obtain ⟨more, rfl⟩ := hmark
    cases more with
    | nil => cases h
    | cons d s =>
      by_cases hd : d ∈ ['=', '!', '<', 'P']
      · simp only [List.mem_cons, List.not_mem_nil, or_false] at hd
        rcases hd with rfl | rfl | rfl | rfl
        · cases h
        · cases h
        · by_cases hlook : (∃ more, s = '=' :: more) ∨ ∃ more, s = '!' :: more
          · rcases hlook with ⟨more, rfl⟩ | ⟨more, rfl⟩
            · cases h
            · cases h
          · have hequal := fun more heq => hlook (.inl ⟨more, heq⟩)
            have hmark := fun more heq => hlook (.inr ⟨more, heq⟩)
            rw [readOpening_named hequal hmark] at h
            obtain ⟨hsuffix, hgroup⟩ := readNamed_steady names s x rest h
            have hname : s <:+ '?' :: '<' :: s := List.suffix_append ['?', '<'] s
            refine ⟨hsuffix.trans hname, fun body t ht => ?_⟩
            obtain rfl := ht.cons
            obtain ⟨rest', hrest, hin⟩ := hgroup _ _ (ht.append hname)
            refine ⟨rest', ?_, hin⟩
            rw [← hrest]
            exact readOpening_named ((InGroup.refl s).ne (by decide) hequal)
              ((InGroup.refl s).ne (by decide) hmark) names
        · by_cases hname : ∃ more, s = '<' :: more
          · obtain ⟨more, rfl⟩ := hname
            obtain ⟨hsuffix, hgroup⟩ := readNamed_steady names more x rest h
            have hname : more <:+ '?' :: 'P' :: '<' :: more :=
              List.suffix_append ['?', 'P', '<'] more
            refine ⟨hsuffix.trans hname, fun body t ht => ?_⟩
            obtain rfl := ht.cons
            exact hgroup _ _ (ht.append hname)
          · rw [readOpening_letter fun more heq => hname ⟨more, heq⟩] at h
            cases h
      · rw [readOpening_flags hd] at h
        obtain ⟨hsuffix, hgroup⟩ := openFlags_steady (d :: s) x rest h
        refine ⟨hsuffix.trans (List.suffix_cons _ _), fun body t ht => ?_⟩
        obtain rfl := ht.cons
        obtain ⟨rest', hrest, hin⟩ := hgroup _ _ ht.tail
        exact ⟨rest', (readOpening_flags hd names _).trans hrest, hin⟩
  · have hs := fun more heq => hmark ⟨more, heq⟩
    rw [readOpening_capture hs] at h
    cases h
    exact ⟨List.suffix_refl _, fun body t ht =>
      ⟨t, readOpening_capture (ht.ne (by decide) hs) names, ht⟩⟩

/-! ## Bounds of repetitions -/

theorem readDigits_steady (blanks : Bool) : SteadyPair (readDigits blanks) := by
  intro s
  fun_induction readDigits blanks s with
  | case1 =>
    refine ⟨List.suffix_refl _, fun body t ht => ?_⟩
    rcases ht.nil with rfl | rfl
    · have hnone : readDigits blanks closing = ([], closing) := by
        rw [closing, readDigits]
        rfl
      rw [hnone]
      exact ⟨rfl, ht⟩
    · rw [readDigits]
      exact ⟨rfl, ht⟩
  | case2 c s hdigit _ r ih =>
    obtain ⟨hsuffix, hgroup⟩ := ih
    refine ⟨hsuffix.trans ((skip_suffix blanks s).trans (List.suffix_cons c s)),
      fun body t ht => ?_⟩
    obtain rfl := ht.cons
    obtain ⟨hfst, hin⟩ := hgroup _ _ (ht.tail.skip blanks)
    rw [readDigits, if_pos hdigit]
    exact ⟨congrArg (c :: ·) hfst, hin⟩
  | case3 c s hdigit =>
    refine ⟨List.suffix_refl _, fun body t ht => ?_⟩
    obtain rfl := ht.cons
    rw [readDigits, if_neg hdigit]
    exact ⟨rfl, ht⟩

theorem skipAfterDigits_suffix (blanks : Bool) (s : List Char) :
    skipAfterDigits blanks s <:+ s := by
  fun_induction skipAfterDigits blanks s with
  | case1 => exact List.suffix_refl _
  | case2 c s hblank _ ih =>
    exact ih.trans ((skip_suffix blanks s).trans (List.suffix_cons c s))
  | case3 c s hblank => exact List.suffix_refl _

theorem InGroup.skipAfterDigits {blanks : Bool} {body s t : List Char} (h : InGroup body s t) :
    InGroup body (skipAfterDigits blanks s) (skipAfterDigits blanks t) := by
  fun_induction Regex.skipAfterDigits blanks s generalizing t with
  | case1 =>
    rcases h.nil with rfl | rfl
    · rw [closing, Regex.skipAfterDigits, if_neg (by decide)]
      exact h
    · rw [Regex.skipAfterDigits]
      exact h
  | case2 c s hblank _ ih =>
    obtain rfl := h.cons
    rw [Regex.skipAfterDigits, if_pos hblank]
    exact ih (h.tail.skip blanks)
  | case3 c s hblank =>
    obtain rfl := h.cons
    rw [Regex.skipAfterDigits, if_neg hblank]
    exact h

theorem readCount_steady (blanks : Bool) : SteadyPair (readCount blanks) := by
  intro s
  obtain ⟨hsuffix, hgroup⟩ := readDigits_steady blanks (s.dropWhile isBlank)
  have hdrop := List.dropWhile_suffix (l := s) isBlank
  refine ⟨(skipAfterDigits_suffix blanks _).trans (hsuffix.trans hdrop), fun body t ht => ?_⟩
  obtain ⟨hfst, hin⟩ := hgroup _ _ (ht.dropWhile isBlank_parenthesis)
  unfold readCount
  exact ⟨by simp only [hfst], hin.skipAfterDigits⟩

/-- The closing brace after the bounds. -/
def closeBounds (bounds : Nat × Option Nat) :
    List Char → Except Fault ((Nat × Option Nat) × List Char)
  | '\x7d' :: rest => .ok (bounds, rest)
  | _ => .error .repetitionUnclosed

theorem closeBounds_steady (bounds : Nat × Option Nat) : Steady (closeBounds bounds) := by
  refine .of_cons rfl fun c => ?_
  by_cases hc : c = '\x7d'
  · rw [hc]
    exact .ok bounds
  · have hclose : (fun s => closeBounds bounds (c :: s)) = fun _ => .error .repetitionUnclosed := by
      funext s
      unfold closeBounds
      split
      · next heq =>
        cases heq
        exact absurd rfl hc
      · rfl
    rw [hclose]
    exact .error _

/-- Reads the bounds after the comma. -/
def readHigh (blanks : Bool) (low : Except Fault Nat) (s : List Char) :
    Except Fault ((Nat × Option Nat) × List Char) :=
  match skip blanks s with
  | [] => .error .repetitionUnclosed
  | '\x7d' :: rest => do return ((← low, none), rest)
  | s => do
    let low ← low
    let (high, rest) := readCount blanks s
    closeBounds (low, some (← high)) rest

theorem readHigh_steady (blanks : Bool) (low : Except Fault Nat) : Steady (readHigh blanks low) := by
  cases low with
  | error e =>
    intro s x rest h
    unfold readHigh at h
    split at h
    · cases h
    · cases h
    · cases h
  | ok low =>
    refine .of_skip blanks (fun s hs => ⟨.repetitionUnclosed, by rw [readHigh, hs]⟩) fun c => ?_
    by_cases hc : c = '\x7d'
    · rw [hc]
      refine ⟨_, .ok (low, none), .inl fun s more hs => ?_⟩
      rw [readHigh, hs]
      rfl
    · have hclose (high : Except Fault Nat) : Steady fun s =>
          high >>= fun high => closeBounds (low, some high) s := by
        cases high with
        | error e => exact .error e
        | ok high => exact closeBounds_steady _
      refine ⟨_, (readCount_steady blanks).bind hclose, .inr fun s more hs => ?_⟩
      rw [readHigh, hs]
      split
      · next heq => cases heq
      · next heq =>
        cases heq
        exact absurd rfl hc
      · rfl

/-- Reads the bounds after the first count. -/
def readAfterLow (blanks : Bool) (low : Except Fault Nat) :
    List Char → Except Fault ((Nat × Option Nat) × List Char)
  | [] => .error .repetitionUnclosed
  | ',' :: rest => readHigh blanks low rest
  | s => do
    let low ← low
    closeBounds (low, some low) s

theorem readAfterLow_of_ne {d : Char} (hd : d ≠ ',') (blanks : Bool) (low : Except Fault Nat)
    (s : List Char) :
    readAfterLow blanks low (d :: s) =
      low >>= fun low => closeBounds (low, some low) (d :: s) := by
  unfold readAfterLow
  split
  · next heq => cases heq
  · next heq =>
    cases heq
    exact absurd rfl hd
  · rfl

theorem readAfterLow_steady (blanks : Bool) (low : Except Fault Nat) :
    Steady (readAfterLow blanks low) := by
  -- nothing is passed over here, so that the flag is off
  refine .of_skip false (fun s hs => ⟨.repetitionUnclosed, ?_⟩) fun c => ?_
  · obtain rfl : s = [] := hs
    rfl
  · by_cases hc : c = ','
    · refine ⟨_, readHigh_steady blanks low, .inl fun s more hs => ?_⟩
      obtain rfl : s = c :: more := hs
      rw [hc]
      rfl
    · have hclose : Steady fun s => low >>= fun low => closeBounds (low, some low) s := by
        cases low with
        | error e => exact .error e
        | ok low => exact closeBounds_steady _
      refine ⟨_, hclose, .inr fun s more hs => ?_⟩
      obtain rfl : s = c :: more := hs
      exact readAfterLow_of_ne hc blanks low more

theorem readBounds_eq {blanks : Bool} {s : List Char} {c : Char} {more : List Char}
    (hs : skip blanks s = c :: more) :
    readBounds blanks s =
      readAfterLow blanks (readCount blanks (c :: more)).1 (readCount blanks (c :: more)).2 := by
  unfold readBounds
  rw [hs]
  cases hcount : readCount blanks (c :: more) with
  | mk low rest =>
    simp only [hcount]
    cases rest with
    | nil => rfl
    | cons d rest =>
      by_cases hd : d = ','
      · rw [hd]
        rfl
      · rw [readAfterLow_of_ne hd]
        split
        · next heq => cases heq
        · next heq =>
          cases heq
          exact absurd rfl hd
        · next heq =>
          cases heq
          rfl

theorem readBounds_steady (blanks : Bool) : Steady (readBounds blanks) :=
  .of_skip blanks (fun s hs => ⟨.repetitionUnclosed, by rw [readBounds, hs]⟩) fun _ =>
    ⟨_, (readCount_steady blanks).bind (readAfterLow_steady blanks),
      .inr fun _ _ hs => readBounds_eq hs⟩

theorem skipLazy_of_ne {s : List Char} (h : ∀ more, s ≠ '?' :: more) : Reader.skipLazy s = s := by
  unfold Reader.skipLazy
  split
  · exact absurd rfl (h _)
  · rfl

theorem InGroup.skipLazy {body s t : List Char} (h : InGroup body s t) :
    InGroup body (Reader.skipLazy s) (Reader.skipLazy t) := by
  by_cases hmark : ∃ more, s = '?' :: more
  · obtain ⟨more, rfl⟩ := hmark
    obtain rfl := h.cons
    exact h.tail
  · have hs := fun more heq => hmark ⟨more, heq⟩
    rw [skipLazy_of_ne hs, skipLazy_of_ne (h.ne (by decide) hs)]
    exact h

theorem skipLazy_suffix (s : List Char) : Reader.skipLazy s <:+ s := by
  unfold Reader.skipLazy
  split
  · exact List.suffix_cons _ _
  · exact List.suffix_refl _

end ProxyRouting.Regex
