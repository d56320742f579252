import Mathlib.Data.List.Infix
import ProxyRouting.Proofs.Regex.Step

/-!
# Reading in a group

An expression that can be read on its own is read in the same way where it stands in a group, up to
the parenthesis that closes the group.  Every reader has that property (`Steady`), since none looks
further ahead than the expression goes; only a comment at the end of the expression goes on, and
hides the parenthesis, and there is none without a number sign in the last line.

    f s = .ok (x, rest) → f (s ++ ")$") = .ok (x, rest ++ ")$")
      (or rest = [] and f (s ++ ")$") = .ok (x, []), where a comment has hidden the closing)
-/

namespace ProxyRouting.Regex

open Text (isBlank)

/-- What closes the group around an expression, and asks for the end of the text after it. -/
def closing : List Char := [')', '$']

/-! ## Comments -/

/-- A number sign stands in the last line of a text, where it may begin a comment. -/
def SignInLastLine (s : List Char) : Prop :=
  ∃ before comment, s = before ++ '#' :: comment ∧ '\n' ∉ comment

theorem SignInLastLine.of_suffix {s body : List Char} (h : SignInLastLine s) (hs : s <:+ body) :
    SignInLastLine body := by
  obtain ⟨before, comment, rfl, hcomment⟩ := h
  obtain ⟨start, rfl⟩ := hs
  exact ⟨start ++ before, comment, (List.append_assoc ..).symm, hcomment⟩

theorem skipBlanks_suffix (comment : Bool) (s : List Char) : skipBlanks comment s <:+ s := by
  induction s generalizing comment with
  | nil => exact List.suffix_refl _
  | cons c s ih =>
    rw [skipBlanks]
    split
    · exact (ih _).trans (List.suffix_cons c s)
    · split
      · exact (ih _).trans (List.suffix_cons c s)
      · split
        · exact (ih _).trans (List.suffix_cons c s)
        · exact List.suffix_refl _

theorem skip_suffix (blanks : Bool) (s : List Char) : skip blanks s <:+ s := by
  unfold skip
  split
  · exact skipBlanks_suffix false s
  · exact List.suffix_refl _

/-- The closing is passed over only with a comment that goes on in it. -/
theorem skipBlanks_closing (comment : Bool) (s : List Char) :
    skipBlanks comment (s ++ closing) = skipBlanks comment s ++ closing ∨
      skipBlanks comment s = [] ∧ skipBlanks comment (s ++ closing) = [] ∧
        (SignInLastLine s ∨ comment = true ∧ '\n' ∉ s) := by
  have hcons {c : Char} {s : List Char} (h : SignInLastLine s) : SignInLastLine (c :: s) :=
    h.of_suffix (List.suffix_cons c s)
  induction s generalizing comment with
  | nil =>
    cases comment with
    | true => exact .inr ⟨rfl, rfl, .inr ⟨rfl, List.not_mem_nil⟩⟩
    | false => exact .inl rfl
  | cons c s ih =>
    rw [List.cons_append, skipBlanks, skipBlanks]
    split
    · next hcomment =>
      refine (ih (c != '\n')).imp_right (And.imp_right (And.imp_right ?_))
      rintro (hsign | ⟨hc, hs⟩)
      · exact .inl (hcons hsign)
      · rw [bne_iff_ne] at hc
        exact .inr ⟨hcomment, by simp [Ne.symm hc, hs]⟩
    · split
      · refine (ih false).imp_right (And.imp_right (And.imp_right ?_))
        rintro (hsign | ⟨hfalse, -⟩)
        · exact .inl (hcons hsign)
        · cases hfalse
      · split
        · next hnumber =>
          refine (ih true).imp_right (And.imp_right (And.imp_right ?_))
          rintro (hsign | ⟨-, hs⟩)
          · exact .inl (hcons hsign)
          · exact .inl ⟨[], s, by rw [beq_iff_eq.mp hnumber]; rfl, hs⟩
        · exact .inl rfl

/-! ## What is left -/

/-- What is left to be read in the group where `s` is left of the expression `body` on its own: the
closing as well, unless a comment has hidden it. -/
structure InGroup (body s t : List Char) : Prop where
  suffix : s <:+ body
  left : t = s ++ closing ∨ s = [] ∧ t = [] ∧ SignInLastLine body

/-- The reader takes the same from an expression on its own and in a group, and puts nothing
back. -/
def Steady {α : Type} (f : List Char → Except Fault (α × List Char)) : Prop :=
  ∀ s x rest, f s = .ok (x, rest) → rest <:+ s ∧
    ∀ body t, InGroup body s t → ∃ rest', f t = .ok (x, rest') ∧ InGroup body rest rest'

/-- The same of a reader that never fails. -/
def SteadyPair {α : Type} (f : List Char → α × List Char) : Prop :=
  ∀ s, (f s).2 <:+ s ∧
    ∀ body t, InGroup body s t → (f t).1 = (f s).1 ∧ InGroup body (f s).2 (f t).2

namespace InGroup

variable {body s t : List Char}

theorem refl (s : List Char) : InGroup s s (s ++ closing) :=
  ⟨List.suffix_refl s, .inl rfl⟩

/-- Further on in the expression the closing is not hidden. -/
theorem append (h : InGroup body s t) {rest : List Char} (hrest : rest <:+ s) :
    InGroup body rest (rest ++ closing) :=
  ⟨hrest.trans h.suffix, .inl rfl⟩

theorem tail {c : Char} (h : InGroup body (c :: s) t) : InGroup body s (s ++ closing) :=
  h.append (List.suffix_cons c s)

theorem nil (h : InGroup body [] t) : t = closing ∨ t = [] := by
  rcases h.left with rfl | ⟨-, rfl, -⟩
  · exact .inl rfl
  · exact .inr rfl

/-- Where something is left of the expression the closing is not hidden. -/
theorem cons {c : Char} (h : InGroup body (c :: s) t) : t = c :: (s ++ closing) := by
  rcases h.left with rfl | ⟨hnil, -, -⟩
  · rfl
  · cases hnil

/-- What is left of the expression and of the group start alike, but for the parenthesis. -/
theorem ne (h : InGroup body s t) {c : Char} (hc : c ≠ ')') (hs : ∀ more, s ≠ c :: more)
    (more : List Char) : t ≠ c :: more := by
  intro heq
  cases s with
  | nil =>
    rcases h.nil with rfl | rfl
    · cases heq
      exact hc rfl
    · cases heq
  | cons d s =>
    cases h.cons.symm.trans heq
    exact hs s rfl

theorem length_le (h : InGroup body s t) : s.length ≤ t.length := by
  rcases h.left with rfl | ⟨rfl, rfl, -⟩
  · rw [List.length_append]
    omega
  · exact Nat.le_refl _

theorem length_le_add (h : InGroup body s t) : t.length ≤ s.length + 2 := by
  rcases h.left with rfl | ⟨-, rfl, -⟩
  · rw [List.length_append]
    exact Nat.le_refl _
  · exact Nat.zero_le _

theorem dropWhile {p : Char → Bool} (hp : p ')' = false) (h : InGroup body s t) :
    InGroup body (s.dropWhile p) (t.dropWhile p) := by
  refine ⟨(List.dropWhile_suffix p).trans h.suffix, ?_⟩
  have hclosing : closing.dropWhile p = closing := List.dropWhile_cons_of_neg (by rw [hp]; decide)
  rcases h.left with rfl | ⟨rfl, rfl, hsign⟩
  · left
    rw [List.dropWhile_append]
    split
    · next hempty => rw [hclosing, List.isEmpty_iff.mp hempty, List.nil_append]
    · rfl
  · exact .inr ⟨rfl, rfl, hsign⟩

theorem skip (h : InGroup body s t) (blanks : Bool) :
    InGroup body (skip blanks s) (skip blanks t) := by
  refine ⟨(skip_suffix blanks s).trans h.suffix, ?_⟩
  unfold Regex.skip
  split
  · rcases h.left with rfl | ⟨rfl, rfl, hsign⟩
    · refine (skipBlanks_closing false s).imp_right fun ⟨hs, ht, hsign⟩ => ⟨hs, ht, ?_⟩
      rcases hsign with hsign | ⟨hfalse, -⟩
      · exact hsign.of_suffix h.suffix
      · cases hfalse
    · exact .inr ⟨rfl, rfl, hsign⟩
  · exact h.left

end InGroup

theorem isBlank_parenthesis : isBlank ')' = false := by decide

/-! ## Steady readers -/

namespace Steady

variable {α β : Type} {f : List Char → Except Fault (α × List Char)}

/-- Where nothing is taken of an empty text it is enough to know what follows a first character. -/
theorem of_cons {e : Fault} (hnil : f [] = .error e) (hcons : ∀ c, Steady fun s => f (c :: s)) :
    Steady f := by
  intro s x rest h
  cases s with
  | nil =>
    rw [hnil] at h
    cases h
  | cons c s =>
    obtain ⟨hrest, hgroup⟩ := hcons c s x rest h
    refine ⟨hrest.trans (List.suffix_cons c s), fun body t ht => ?_⟩
    obtain rfl := ht.cons
    exact hgroup _ _ ht.tail

theorem of_ok (h : ∀ s x rest, f s = .ok (x, rest) → Steady f) : Steady f :=
  fun s x rest hs => h s x rest hs s x rest hs

theorem ok (x : α) : Steady fun s => .ok (x, s) := by
  intro s y rest h
  cases h
  exact ⟨List.suffix_refl _, fun body t ht => ⟨t, rfl, ht⟩⟩

theorem error (e : Fault) : Steady fun _ => (.error e : Except Fault (α × List Char)) := by
  intro s x rest h
  cases h

/-- What is made without reading. -/
theorem const (a : Except Fault α) : Steady fun s => a.map fun x => (x, s) := by
  cases a with
  | error e => exact error e
  | ok x => exact ok x

/-- What is made without reading, before something is passed over. -/
theorem after {g : List Char → List Char} (hsuffix : ∀ s, g s <:+ s)
    (hgroup : ∀ body s t, InGroup body s t → InGroup body (g s) (g t)) (a : Except Fault α) :
    Steady fun s => a >>= fun x => .ok (x, g s) := by
  cases a with
  | error e => exact error e
  | ok y =>
    intro s x rest h
    cases h
    exact ⟨hsuffix s, fun body t ht => ⟨g t, rfl, hgroup body s t ht⟩⟩

theorem ite {g : List Char → Except Fault (α × List Char)} (p : Prop) [Decidable p]
    (hf : Steady f) (hg : Steady g) : Steady fun s => if p then f s else g s := by
  by_cases hp : p
  · simpa only [hp, if_true] using hf
  · simpa only [hp, if_false] using hg

/-- The same of a reader that passes over blanks first, and then takes the first character or
leaves it to the next reader. -/
theorem of_skip (blanks : Bool) (hnil : ∀ s, skip blanks s = [] → ∃ e, f s = .error e)
    (hcons : ∀ c, ∃ g, Steady g ∧
      ((∀ s more, skip blanks s = c :: more → f s = g more) ∨
        ∀ s more, skip blanks s = c :: more → f s = g (c :: more))) : Steady f := by
  intro s x rest h
  cases hs : skip blanks s with
  | nil =>
    obtain ⟨e, he⟩ := hnil s hs
    rw [he] at h
    cases h
  | cons c more =>
    have hmore : c :: more <:+ s := by
      rw [← hs]
      exact skip_suffix blanks s
    have hskip : ∀ body t, InGroup body s t → InGroup body (c :: more) (skip blanks t) := by
      intro body t ht
      rw [← hs]
      exact ht.skip blanks
    obtain ⟨g, hg, hfg | hfg⟩ := hcons c
    · rw [hfg s more hs] at h
      obtain ⟨hrest, hgroup⟩ := hg more x rest h
      refine ⟨hrest.trans ((List.suffix_cons c more).trans hmore), fun body t ht => ?_⟩
      have hin := hskip body t ht
      rw [hfg t _ hin.cons]
      exact hgroup _ _ hin.tail
    · rw [hfg s more hs] at h
      obtain ⟨hrest, hgroup⟩ := hg (c :: more) x rest h
      refine ⟨hrest.trans hmore, fun body t ht => ?_⟩
      have hin := hskip body t ht
      rw [hfg t _ hin.cons, ← hin.cons]
      exact hgroup _ _ hin

theorem skip (hf : Steady f) (blanks : Bool) : Steady fun s => f (skip blanks s) := by
  intro s x rest h
  obtain ⟨hrest, hgroup⟩ := hf _ x rest h
  exact ⟨hrest.trans (skip_suffix blanks s), fun body t ht => hgroup _ _ (ht.skip blanks)⟩

/-- What is read in two parts. -/
theorem bind {g : α → List Char → Except Fault (β × List Char)} (hf : Steady f)
    (hg : ∀ x, Steady (g x)) : Steady fun s => f s >>= fun r => g r.1 r.2 := by
  intro s y rest h
  obtain ⟨r, hr, hy⟩ := bind_ok_iff.mp h
  obtain ⟨hsuffix, hgroup⟩ := hf s r.1 r.2 hr
  obtain ⟨hsuffix', hgroup'⟩ := hg r.1 r.2 y rest hy
  refine ⟨hsuffix'.trans hsuffix, fun body t ht => ?_⟩
  obtain ⟨middle, hmiddle, hin⟩ := hgroup _ t ht
  obtain ⟨rest', hrest, hin'⟩ := hgroup' _ middle hin
  exact ⟨rest', bind_ok_iff.mpr ⟨_, hmiddle, hrest⟩, hin'⟩

theorem map (hf : Steady f) (g : α → β) : Steady fun s => (f s).map fun r => (g r.1, r.2) := by
  intro s y rest h
  obtain ⟨r, hr, hy⟩ := map_ok_iff.mp h
  cases hy
  obtain ⟨hsuffix, hgroup⟩ := hf s r.1 r.2 hr
  refine ⟨hsuffix, fun body t ht => ?_⟩
  obtain ⟨rest', hrest, hin⟩ := hgroup _ t ht
  exact ⟨rest', map_ok_iff.mpr ⟨_, hrest, rfl⟩, hin⟩

end Steady

theorem SteadyPair.bind {α β : Type} {f : List Char → α × List Char}
    {g : α → List Char → Except Fault (β × List Char)} (hf : SteadyPair f)
    (hg : ∀ x, Steady (g x)) : Steady fun s => g (f s).1 (f s).2 := by
  intro s y rest h
  obtain ⟨hsuffix, hgroup⟩ := hf s
  obtain ⟨hsuffix', hgroup'⟩ := hg (f s).1 (f s).2 y rest h
  refine ⟨hsuffix'.trans hsuffix, fun body t ht => ?_⟩
  obtain ⟨hfst, hin⟩ := hgroup _ t ht
  show ∃ rest', g (f t).1 (f t).2 = _ ∧ _
  rw [hfst]
  exact hgroup' _ _ hin

end ProxyRouting.Regex
