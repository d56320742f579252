import ProxyRouting.Proofs.HostPattern.Expression

/-!
# Which expressions are usable between slashes

The expression between slashes is compiled twice, on its own and between the anchors.  What is
refused on its own is refused in the pattern.  What is accepted on its own is accepted between the
anchors, within the limits of depth and of size, but for one case: under the flag `x` a comment at
the end of the expression hides the parenthesis that closes the group around it.  An expression
without a number sign in its last line is not one of those.

    compile ("/" ++ e ++ "/") = .ok p ↔ Regex.compile e accepts, nothing is hidden, the limits hold
-/

namespace ProxyRouting

namespace Regex

/-! ## Anchored expressions -/

/-- Whether an expression is within the limits with the anchors around it: they are two levels and
two conditions more. -/
def FitsAnchored (body : List Char) (r : Regex) : Prop :=
  (∃ ast, read body = .ok ast ∧ ast.depth + 2 ≤ nestLimit) ∧ fits (betweenEnds r) = true

theorem compile_of_read_error {s : List Char} {fault : Fault} (h : read s = .error fault) :
    compile s = .error fault := by
  unfold compile ofText
  rw [h]
  rfl

theorem compile_of_ofText {s : List Char} {r : Regex} (h : ofText s = .ok r) :
    compile s = if fits r then .ok r else .error .tooLarge := by
  unfold compile
  rw [h]
  rfl

theorem compile_anchored_of_hidden {body : List Char} {r : Regex} (hbody : compile body = .ok r)
    (hhides : HidesClosing body) :
    compile (HostPattern.anchored body) = .error .unclosedGroup := by
  obtain ⟨ast, flags, hread, hmeaning⟩ := ofText_ok_iff.mp (compile_ok_iff.mp hbody).1
  rcases read_anchored_of_ok hread with ⟨-, -, heq⟩ | ⟨hopen, -⟩
  · exact compile_of_read_error heq
  · exact absurd hhides hopen

theorem signInLastLine_of_hidesClosing {body : List Char} {r : Regex} (hbody : compile body = .ok r)
    (hhides : HidesClosing body) : SignInLastLine body := by
  obtain ⟨ast, flags, hread, -⟩ := ofText_ok_iff.mp (compile_ok_iff.mp hbody).1
  exact hhides.signInLastLine hread

theorem compile_anchored_of_not_hidden {body : List Char} {r : Regex}
    (hbody : compile body = .ok r) (hopen : ¬HidesClosing body) :
    (FitsAnchored body r → compile (HostPattern.anchored body) = .ok (betweenEnds r)) ∧
      (¬FitsAnchored body r → ∃ fault ∈ [Fault.nestedTooDeep, Fault.tooLarge],
        compile (HostPattern.anchored body) = .error fault) := by
  obtain ⟨ast, flags, hread, hmeaning⟩ := ofText_ok_iff.mp (compile_ok_iff.mp hbody).1
  rcases read_anchored_of_ok hread with ⟨hhides, -⟩ | ⟨-, heq⟩
  · exact absurd hhides hopen
  · split at heq
    · next hdeep =>
      refine ⟨?_, fun _ => ⟨_, .head _, compile_of_read_error heq⟩⟩
      rintro ⟨⟨ast', hread', hdepth⟩, -⟩
      cases hread.symm.trans hread'
      omega
    · next hdepth =>
      have hmeans : ofText (HostPattern.anchored body) = .ok (betweenEnds r) :=
        ofText_ok_iff.mpr ⟨_, _, heq, betweenAnchors_meaning hmeaning⟩
      rw [compile_of_ofText hmeans]
      constructor
      · rintro ⟨-, hfits⟩
        exact if_pos hfits
      · intro hlimits
        have hfits : ¬fits (betweenEnds r) = true := fun hfits =>
          hlimits ⟨⟨ast, hread, Nat.le_of_not_lt hdepth⟩, hfits⟩
        exact ⟨_, .tail _ (.head _), if_neg hfits⟩

end Regex

namespace HostPattern

/-! ## Patterns -/

theorem compile_slashes_eq {e : String} (he : e ≠ "") :
    compile ("/" ++ e ++ "/") = match compileBody e.toList with
      | .ok regex => .ok (.expression ("/" ++ e ++ "/") regex)
      | .error fault => .error ⟨"/" ++ e ++ "/", fault⟩ := by
  cases hbody : compileBody e.toList with
  | error fault => simp only [compile, body?_slashes he, hbody]
  | ok regex => simp only [compile, body?_slashes he, hbody]

section

variable {body : List Char}

theorem compileBody_of_error {fault : Regex.Fault} (h : Regex.compile body = .error fault) :
    compileBody body = .error fault := by
  unfold compileBody
  rw [h]
  rfl

theorem compileBody_of_ok {r : Regex} (h : Regex.compile body = .ok r) :
    compileBody body = Regex.compile (anchored body) := by
  unfold compileBody
  rw [h]
  rfl

end

/-! ## Top theorem -/

/-- **Which expressions are usable.**  A pattern between slashes is refused, under its full text,
with the fault of its expression where that is refused on its own.  Where it is accepted on its own
the pattern is accepted just if no comment at the end of the expression hides the closing parenthesis
and the limits hold with the anchors.  Only a comment that begins in the last line hides it. -/
theorem compile_slashes {e : String} (he : e ≠ "") :
    (∀ fault, Regex.compile e.toList = .error fault →
      compile ("/" ++ e ++ "/") = .error ⟨"/" ++ e ++ "/", fault⟩) ∧
    ∀ r, Regex.compile e.toList = .ok r →
      (Regex.HidesClosing e.toList → Regex.SignInLastLine e.toList ∧
        compile ("/" ++ e ++ "/") = .error ⟨"/" ++ e ++ "/", .unclosedGroup⟩) ∧
      (¬Regex.HidesClosing e.toList → Regex.FitsAnchored e.toList r →
        compile ("/" ++ e ++ "/") = .ok (.expression ("/" ++ e ++ "/") (Regex.betweenEnds r))) ∧
      (¬Regex.HidesClosing e.toList → ¬Regex.FitsAnchored e.toList r →
        ∃ fault ∈ [Regex.Fault.nestedTooDeep, Regex.Fault.tooLarge],
          compile ("/" ++ e ++ "/") = .error ⟨"/" ++ e ++ "/", fault⟩) := by
  have heq := compile_slashes_eq he
  refine ⟨fun fault hfault => ?_, fun r hr => ⟨fun hhides => ?_, fun hopen hfits => ?_,
    fun hopen hlimits => ?_⟩⟩
  · rw [heq, compileBody_of_error hfault]
  · refine ⟨Regex.signInLastLine_of_hidesClosing hr hhides, ?_⟩
    rw [heq, compileBody_of_ok hr, Regex.compile_anchored_of_hidden hr hhides]
  · rw [heq, compileBody_of_ok hr, (Regex.compile_anchored_of_not_hidden hr hopen).1 hfits]
  · obtain ⟨fault, hfault, hanchored⟩ :=
      (Regex.compile_anchored_of_not_hidden hr hopen).2 hlimits
    refine ⟨fault, hfault, ?_⟩
    rw [heq, compileBody_of_ok hr, hanchored]

/-- An expression with a comment at its end: with a line feed after it the pattern would be
accepted. -/
theorem compile_slashes_comment :
    "(?x)a#b" ≠ "" ∧
      Regex.compile "(?x)a#b".toList = .ok (.seq .empty (.char 'a')) ∧
      Regex.HidesClosing "(?x)a#b".toList ∧
      compile ("/" ++ "(?x)a#b" ++ "/") = .error ⟨"/" ++ "(?x)a#b" ++ "/", .unclosedGroup⟩ ∧
      Regex.compile "(?x)a#b\n".toList = .ok (.seq .empty (.char 'a')) ∧
      ¬Regex.HidesClosing "(?x)a#b\n".toList ∧
      compile ("/" ++ "(?x)a#b\n" ++ "/") = .ok (.expression ("/" ++ "(?x)a#b\n" ++ "/")
        (Regex.betweenEnds (.seq .empty (.char 'a')))) := by
  have hr : Regex.compile "(?x)a#b".toList = .ok (.seq .empty (.char 'a')) := by decide +kernel
  have hhides : Regex.HidesClosing "(?x)a#b".toList :=
    ⟨.seq (.flags [(.blanks, true)]) (.literal (.verbatim 'a')), by decide +kernel⟩
  have hr' : Regex.compile "(?x)a#b\n".toList = .ok (.seq .empty (.char 'a')) := by decide +kernel
  have hread : Regex.read "(?x)a#b\n".toList =
      .ok (.seq (.flags [(.blanks, true)]) (.literal (.verbatim 'a'))) := by decide +kernel
  have hopen : ¬Regex.HidesClosing "(?x)a#b\n".toList := by
    rintro ⟨ast, hast⟩
    have hfault : Regex.read ("(?x)a#b\n".toList ++ Regex.closing) = .error .unopenedGroup := by
      decide +kernel
    cases hfault.symm.trans hast
  have hfits : Regex.FitsAnchored "(?x)a#b\n".toList (.seq .empty (.char 'a')) :=
    ⟨⟨_, hread, by decide⟩, by decide +kernel⟩
  exact ⟨by decide, hr, hhides, (((compile_slashes (by decide)).2 _ hr).1 hhides).2, hr', hopen,
    ((compile_slashes (by decide)).2 _ hr').2.1 hopen hfits⟩

end HostPattern

end ProxyRouting
