import ProxyRouting.HostPattern
import ProxyRouting.Proofs.Regex.Group.Class
import ProxyRouting.Proofs.Regex.Group.Operator

/-!
# Whole expressions in a group

What stands in a group is read as it is on its own, step by step, in a reader that has one more
group open around everything; so the parenthesis that closes the group can only be the one written
after the expression.  The expression that a host pattern is anchored with is such a group.

    read body = A, read ("^(?:" ++ body ++ ")$") = B → B = start, group A, end
-/

namespace ProxyRouting.Regex

namespace Reader

/-! ## Steps -/

theorem step_steady (r : Reader) (c : Char) : Steady (r.step c) := by
  have hlazy := Steady.after (α := Reader) skipLazy_suffix fun _ _ _ => InGroup.skipLazy
  by_cases hc : c ∈ operators
  · simp only [operators, List.mem_cons, List.not_mem_nil, or_false] at hc
    rcases hc with rfl | rfl | rfl | rfl | rfl | rfl | rfl | rfl
    · exact ((readOpening_steady r.names).skip r.blanks).bind fun opening => .ok _
    · exact Steady.after List.suffix_refl (fun _ _ _ ht => ht) r.close
    · exact .ok _
    · exact (readClass_steady r.blanks).bind fun ast => .ok _
    · exact hlazy _
    · exact hlazy _
    · exact hlazy _
    · rw [funext r.step_brace]
      cases r.repeatLast 0 none with
      | error e => exact .error e
      | ok last =>
        exact (readBounds_steady r.blanks).bind fun bounds =>
          .after (fun s => (skipLazy_suffix _).trans (skip_suffix _ s))
            (fun _ _ _ ht => (ht.skip r.blanks).skipLazy) (r.repeatBetween bounds)
  · rw [show r.step c = _ from funext fun s => r.step_primitive s hc]
    exact (readPrimitive_steady r.blanks c).bind fun primitive =>
      .ok (r.push primitive.toAst)

/-- The same reader with one more group open around everything. -/
def within (e : Enclosing) (r : Reader) : Reader :=
  { r with outer := r.outer ++ [e] }

theorem enter_within (e : Enclosing) (r : Reader) (opening : Opening) :
    (r.within e).enter opening = (r.enter opening).within e := by
  cases opening with
  | flags change => rfl
  | group change => rfl
  | capture name => rfl

theorem close_within (e : Enclosing) {r r' : Reader} (h : r.close = .ok r') :
    (r.within e).close = .ok (r'.within e) := by
  obtain ⟨level, outer, blanks, names⟩ := r
  cases outer with
  | nil => cases h
  | cons inner outer =>
    cases h
    rfl

theorem repeatLast_within (e : Enclosing) {r r' : Reader} {min : Nat} {max : Option Nat}
    (h : r.repeatLast min max = .ok r') :
    (r.within e).repeatLast min max = .ok (r'.within e) := by
  obtain ⟨item, items, hitems, hflags, rfl⟩ := repeatLast_ok_iff.mp h
  exact repeatLast_ok_iff.mpr ⟨item, items, hitems, hflags, rfl⟩

theorem repeatBetween_within (e : Enclosing) {r r' : Reader} {bounds : Nat × Option Nat}
    (h : r.repeatBetween bounds = .ok r') :
    (r.within e).repeatBetween bounds = .ok (r'.within e) := by
  unfold repeatBetween at h ⊢
  split at h
  · cases h
  · next hbounds =>
    rw [if_neg hbounds]
    exact repeatLast_within e h

/-- A step takes no notice of the groups around those that it closes. -/
theorem Step.within (e : Enclosing) {r r' : Reader} {c : Char} {s rest : List Char}
    (h : Step r c s r' rest) : Step (r.within e) c s (r'.within e) rest := by
  cases h with
  | enter h =>
    rw [← enter_within]
    exact .enter h
  | close h => exact .close (close_within e h) s
  | branch => exact .branch s
  | bracket h => exact .bracket h
  | repeated hc h => exact .repeated hc (repeatLast_within e h) s
  | between hlast hread h =>
    exact .between (repeatLast_within e hlast) hread (repeatBetween_within e h)
  | primitive hc h => exact .primitive hc h

theorem step_within (e : Enclosing) {r r' : Reader} {c : Char} {s rest : List Char}
    (h : r.step c s = .ok (r', rest)) : (r.within e).step c s = .ok (r'.within e, rest) :=
  step_ok_iff.mpr ((step_ok_iff.mp h).within e)

/-! ## Runs -/

theorem skipBlanks_skipBlanks (comment : Bool) (s : List Char) :
    skipBlanks false (skipBlanks comment s) = skipBlanks comment s := by
  induction s generalizing comment with
  | nil => rfl
  | cons c s ih =>
    rw [skipBlanks]
    split
    · exact ih _
    · split
      · exact ih _
      · next hblank =>
        split
        · exact ih _
        · next hnumber => rw [skipBlanks, if_neg Bool.false_ne_true, if_neg hblank, if_neg hnumber]

theorem skip_skip (blanks : Bool) (s : List Char) : skip blanks (skip blanks s) = skip blanks s := by
  cases blanks with
  | true => exact skipBlanks_skipBlanks false s
  | false => rfl

theorem run_skip (r : Reader) (fuel : Nat) (s : List Char) :
    r.run fuel (skip r.blanks s) = r.run fuel s := by
  unfold run
  rw [skip_skip]

theorem skip_nil (blanks : Bool) : skip blanks [] = [] := by
  cases blanks with
  | true => rfl
  | false => rfl

theorem skip_closing (blanks : Bool) : skip blanks closing = closing := by
  cases blanks with
  | true => rfl
  | false => rfl

/-- At the end of an expression in a group the reader is in the state that it comes to without the
closing, and has the closing before it, unless a comment has hidden that.  A group around them makes
no difference. -/
theorem run_in_group (fuel : Nat) :
    ∀ {r r' : Reader} {body s t : List Char}, s.length ≤ fuel → r.run fuel s = .ok r' →
      InGroup body s t →
      ∃ left, InGroup body [] left ∧ ∀ fuel', t.length ≤ fuel' → ∃ n, left.length ≤ n ∧
        r.run fuel' t = r'.run n left ∧
        ∀ e, (r.within e).run fuel' t = (r'.within e).run n left := by
  have hend {r : Reader} {body t : List Char} (ht : InGroup body [] (skip r.blanks t)) :
      ∃ left, InGroup body [] left ∧ ∀ fuel', t.length ≤ fuel' → ∃ n, left.length ≤ n ∧
        r.run fuel' t = r.run n left ∧ ∀ e, (r.within e).run fuel' t = (r.within e).run n left :=
    ⟨_, ht, fun fuel' hfuel => ⟨fuel', Nat.le_trans (skip_length _ t) hfuel,
      (run_skip r fuel' t).symm, fun e => (run_skip (r.within e) fuel' t).symm⟩⟩
  induction fuel with
  | zero =>
    intro r r' body s t hs hrun ht
    obtain rfl : s = [] := List.length_eq_zero_iff.mp (Nat.le_zero.mp hs)
    have hnil := skip_nil r.blanks
    rw [run_of_blank hnil] at hrun
    cases hrun
    have hskip := ht.skip r.blanks
    rw [hnil] at hskip
    exact hend hskip
  | succ fuel ih =>
    intro r r' body s t hs hrun ht
    have hskip := ht.skip r.blanks
    cases hmore : skip r.blanks s with
    | nil =>
      rw [run_of_blank hmore] at hrun
      cases hrun
      rw [hmore] at hskip
      exact hend hskip
    | cons c more =>
      rw [run_of_cons hmore] at hrun
      obtain ⟨⟨next, rest⟩, hstep, hrun⟩ := bind_ok_iff.mp hrun
      obtain ⟨hsuffix, hgroup⟩ := r.step_steady c more next rest hstep
      have hlen := hsuffix.length_le
      rw [hmore] at hskip
      obtain ⟨rest', hrest, hin⟩ := hgroup _ _ hskip.tail
      have hlenS := skip_length r.blanks s
      rw [hmore, List.length_cons] at hlenS
      have hlenT := skip_length r.blanks t
      rw [hskip.cons, List.length_cons, List.length_append] at hlenT
      have hlenR := hin.length_le_add
      have hclosing : closing.length = 2 := rfl
      have hnext : next.run fuel rest = .ok r' := hrun
      obtain ⟨left, hleft, hruns⟩ := ih (by omega) hnext hin
      refine ⟨left, hleft, fun fuel' hfuel => ?_⟩
      obtain ⟨m, rfl⟩ : ∃ m, fuel' = m + 1 := ⟨fuel' - 1, by omega⟩
      obtain ⟨n, hn, hsame, hwithin⟩ := hruns m (by omega)
      refine ⟨n, hn, ?_, fun e => ?_⟩
      · rw [run_of_cons hskip.cons, hrest]
        exact hsame
      · rw [run_of_cons (r := r.within e) hskip.cons, step_within e hrest]
        exact hwithin e

end Reader

/-! ## The anchored expression -/

/-- What the anchors have put before the expression. -/
def anchor : Enclosing :=
  ⟨⟨[], [.assertion .startLine]⟩, .group [], false⟩

theorem anchored_eq (body : List Char) :
    HostPattern.anchored body = '^' :: '(' :: '?' :: ':' :: (body ++ closing) := by
  simp [HostPattern.anchored, closing]

theorem run_anchored (body : List Char) :
    Reader.start.run (HostPattern.anchored body).length (HostPattern.anchored body) =
      (Reader.start.within anchor).run ((body ++ closing).length + 2) (body ++ closing) := by
  have hfirst : Reader.start.step '^' ('(' :: '?' :: ':' :: (body ++ closing)) =
      .ok (Reader.start.push (.assertion .startLine), '(' :: '?' :: ':' :: (body ++ closing)) := rfl
  have hsecond : (Reader.start.push (.assertion .startLine)).step '('
      ('?' :: ':' :: (body ++ closing)) = .ok (Reader.start.within anchor, body ++ closing) := rfl
  rw [anchored_eq, List.length_cons, List.length_cons, List.length_cons, List.length_cons,
    Reader.run_of_cons rfl, hfirst]
  show (Reader.start.push (.assertion .startLine)).run _ _ = _
  rw [Reader.run_of_cons rfl, hsecond]
  rfl

/-- Whether a comment at the end of an expression hides what is written after it: it can be read with
a closing parenthesis that closes nothing. -/
def HidesClosing (body : List Char) : Prop :=
  ∃ ast, read (body ++ closing) = .ok ast

/-- An expression between the anchors, in a group of its own. -/
def betweenAnchors (ast : Ast) : Ast :=
  .seq (.assertion .startLine) (.seq (.group [] ast) (.assertion .endLine))

theorem betweenAnchors_depth (ast : Ast) : (betweenAnchors ast).depth = ast.depth + 2 := by
  show max 1 (max (ast.depth + 1) 0 + 1) = ast.depth + 2
  omega

theorem read_of_run {s : List Char} {r : Reader} (h : Reader.start.run s.length s = .ok r) :
    read s = if !r.outer.isEmpty then .error .unclosedGroup
      else if nestLimit < r.level.toAst.depth then .error .nestedTooDeep
      else .ok r.level.toAst := by
  unfold read
  rw [h]
  rfl

/-- With the anchors around it an expression stands as one group between them, unless a comment in
its last line hides the parenthesis that closes the group. -/
theorem read_anchored_of_ok {body : List Char} {ast : Ast} (h : read body = .ok ast) :
    HidesClosing body ∧ SignInLastLine body ∧
        read (HostPattern.anchored body) = .error .unclosedGroup ∨
      ¬HidesClosing body ∧ read (HostPattern.anchored body) =
        if nestLimit < ast.depth + 2 then .error .nestedTooDeep else .ok (betweenAnchors ast) := by
  obtain ⟨⟨level, outer, blanks, names⟩, hrun, hclosed, hdepth, rfl⟩ := read_ok_iff.mp h
  obtain rfl : outer = [] := hclosed
  obtain ⟨left, hleft, hruns⟩ :=
    Reader.run_in_group body.length (Nat.le_refl _) hrun (.refl body)
  obtain ⟨n, hn, halone, -⟩ := hruns _ (Nat.le_refl _)
  obtain ⟨m, hm, -, hwithin⟩ := hruns _ (Nat.le_add_right _ 2)
  have hanchored := (run_anchored body).trans (hwithin anchor)
  rcases hleft.left with hclosing | ⟨-, rfl, hsign⟩
  · obtain rfl : left = closing := hclosing
    obtain ⟨n, rfl⟩ : ∃ k, n = k + 2 := Nat.exists_eq_add_of_le' hn
    obtain ⟨m, rfl⟩ : ∃ k, m = k + 2 := Nat.exists_eq_add_of_le' hm
    rw [Reader.run_of_cons (Reader.skip_closing _)] at halone hanchored
    refine .inr ⟨?_, ?_⟩
    · -- there is no group that the parenthesis could close
      rintro ⟨ast, hast⟩
      obtain ⟨r, hr, -⟩ := read_ok_iff.mp hast
      cases halone.symm.trans hr
    · -- both characters of the closing are read, and nothing is left
      have hlast : _ = Reader.run m ⟨⟨[], [.assertion .endLine, .group [] level.toAst,
        .assertion .startLine]⟩, [], false, names⟩ [] := hanchored
      rw [read_of_run (hlast.trans (Reader.run_of_blank rfl m)), ← betweenAnchors_depth]
      rfl
  · have hnil := Reader.skip_nil blanks
    refine .inl ⟨⟨level.toAst, ?_⟩, hsign, ?_⟩
    · rw [read_of_run (halone.trans (Reader.run_of_blank hnil n))]
      exact if_neg (Nat.not_lt.mpr hdepth)
    · -- the group is still open
      rw [read_of_run (hanchored.trans (Reader.run_of_blank hnil m))]
      rfl

/-- Only a comment hides the closing parenthesis, and a comment begins with a number sign. -/
theorem HidesClosing.signInLastLine {body : List Char} {ast : Ast} (h : HidesClosing body)
    (hread : read body = .ok ast) : SignInLastLine body := by
  rcases read_anchored_of_ok hread with ⟨-, hsign, -⟩ | ⟨hopen, -⟩
  · exact hsign
  · exact absurd h hopen

/-- **Anchors hold.**  An expression that can be read on its own, and with the anchors around it,
stands as one group between them. -/
theorem read_anchored {body : List Char} {inner outer : Ast} (hinner : read body = .ok inner)
    (houter : read (HostPattern.anchored body) = .ok outer) : outer = betweenAnchors inner := by
  rcases read_anchored_of_ok hinner with ⟨-, -, heq⟩ | ⟨-, heq⟩
  · cases heq.symm.trans houter
  · rw [heq] at houter
    split at houter
    · cases houter
    · cases houter
      rfl

end ProxyRouting.Regex
