import ProxyRouting.Proofs.Destination.Authority
import ProxyRouting.ProxyVariable.Reader

/-!
# Where the stars stand

The value of a variable is told with stars in the place of what its authority has between the first
colon and the last at-sign.  What stands at some place of the value is told unless stars stand for
some of it.

    w <:+: before ++ redacted (a ++ w ++ b) ++ after ↔
      ¬ Covers (a ++ w ++ b) a.length (a ++ w).length                        (infix_redacted_iff)
-/

namespace ProxyRouting.ProxyVariable

open Text (cut? cutLast? cutAt? OnceIn)
open Destination (authorityMark cutAt?_mark_append upToDelimiter upToDelimiter_append_drop)

/-! ## The parts of a value -/

theorem splitAuthority_of_mark {s scheme rest : List Char}
    (h : cutAt? authorityMark s = some (scheme, rest)) :
    splitAuthority s = (scheme ++ authorityMark, rest) := by
  unfold splitAuthority
  rw [h]

/-- After a scheme. -/
theorem splitAuthority_scheme {name : List Char} (h : ':' ∉ name) (rest : List Char) :
    splitAuthority (name ++ authorityMark ++ rest) = (name ++ authorityMark, rest) := by
  apply splitAuthority_of_mark
  rw [List.append_assoc, cutAt?_mark_append h, Text.cutAt?_of_append rfl]
  simp

/-- After a pair of slashes, where there is no mark. -/
theorem splitAuthority_slashes {rest : List Char}
    (hmark : cutAt? authorityMark (['/', '/'] ++ rest) = none) :
    splitAuthority (['/', '/'] ++ rest) = (['/', '/'], rest) := by
  unfold splitAuthority
  rw [hmark]
  rfl

/-- At the start of all other values. -/
theorem splitAuthority_bare {s : List Char} (hmark : cutAt? authorityMark s = none)
    (hslashes : ¬ ['/', '/'] <+: s) : splitAuthority s = ([], s) := by
  unfold splitAuthority
  rw [hmark]
  dsimp only
  split
  · exact absurd ⟨_, rfl⟩ hslashes
  · rfl

theorem splitAuthority_append (s : List Char) :
    (splitAuthority s).1 ++ (splitAuthority s).2 = s := by
  unfold splitAuthority
  cases h : cutAt? authorityMark s with
  | some r => exact ((Text.cutAt?_eq_some_iff (by decide)).mp h).1.symm
  | none =>
    dsimp only
    split <;> rfl

/-! ## The place of the stars -/

/-- User, password and host of an authority that has them. -/
def passwordIn? (authority : List Char) : Option (List Char × List Char × List Char) :=
  (cutLast? '@' authority).bind fun r => (cut? ':' r.1).map fun t => (t.1, t.2, r.2)

variable {s user password host : List Char}

theorem passwordIn?_eq_some_iff : passwordIn? s = some (user, password, host) ↔
    s = user ++ ':' :: password ++ '@' :: host ∧ ':' ∉ user ∧ '@' ∉ host := by
  unfold passwordIn?
  constructor
  · intro h
    obtain ⟨⟨info, host'⟩, hlast, h⟩ := Option.bind_eq_some_iff.mp h
    obtain ⟨⟨user', password'⟩, hcut, h⟩ := Option.map_eq_some_iff.mp h
    cases h
    obtain ⟨rfl, hhost⟩ := Text.cutLast?_eq_some_iff.mp hlast
    obtain ⟨rfl, huser⟩ := Text.cut?_eq_some_iff.mp hcut
    exact ⟨rfl, huser, hhost⟩
  · rintro ⟨rfl, huser, hhost⟩
    rw [Text.cutLast?_append hhost]
    show (cut? ':' (user ++ ':' :: password)).map _ = _
    rw [Text.cut?_append huser]
    rfl

/-- A colon before an at-sign is enough; the first colon then ends the user. -/
theorem passwordIn?_of_colon (a b c : List Char) :
    ∃ user password host, passwordIn? (a ++ ':' :: b ++ '@' :: c) = some (user, password, host) ∧
      user.length ≤ a.length := by
  unfold passwordIn?
  cases hlast : cutLast? '@' (a ++ ':' :: b ++ '@' :: c) with
  | none =>
    exact absurd (Text.cutLast?_eq_none_iff.mp hlast) (by simp)
  | some r =>
    obtain ⟨info, host⟩ := r
    have hle := Text.length_le_of_cutLast? hlast rfl
    obtain ⟨z, rfl⟩ : a ++ ':' :: b <+: info :=
      List.prefix_of_prefix_length_le ⟨'@' :: c, rfl⟩
        ⟨'@' :: host, (Text.cutLast?_eq_some_iff.mp hlast).1.symm⟩ hle
    cases hcut : cut? ':' (a ++ ':' :: b ++ z) with
    | none => exact absurd (Text.cut?_eq_none_iff.mp hcut) (by simp)
    | some t =>
      obtain ⟨user, password⟩ := t
      have hfirst : a ++ ':' :: b ++ z = a ++ ':' :: (b ++ z) := by simp
      refine ⟨user, password, host, ?_, Text.cut?_length_le hcut hfirst⟩
      rw [Option.bind_some, hcut]
      rfl

/-- Nothing is hidden where no password is found. -/
theorem redacted_of_none (h : passwordIn? (authority s) = none) : redacted s = s := by
  unfold authority passwordIn? at h
  unfold redacted
  cases hlast : cutLast? '@' (upToDelimiter (splitAuthority s).2) with
  | none => simp only [hlast]
  | some r =>
    rw [hlast, Option.bind_some, Option.map_eq_none_iff] at h
    simp only [hlast, h]

theorem redacted_of_some (h : passwordIn? (authority s) = some (user, password, host)) :
    ∃ a b, a = (splitAuthority s).1 ++ user ∧ s = a ++ ':' :: password ++ '@' :: b ∧
      redacted s = a ++ ":***@".toList ++ b := by
  obtain ⟨hauth, huser, hhost⟩ := passwordIn?_eq_some_iff.mp h
  have hs := splitAuthority_append s
  have hrest := upToDelimiter_append_drop (splitAuthority s).2
  unfold authority at hauth
  refine ⟨_, host ++ (splitAuthority s).2.drop (upToDelimiter (splitAuthority s).2).length, rfl,
    ?_, ?_⟩
  · conv => lhs; rw [← hs, ← hrest, hauth]
    simp [hauth]
  · unfold redacted
    have hlast : cutLast? '@' (upToDelimiter (splitAuthority s).2) =
        some (user ++ ':' :: password, host) := by
      rw [hauth, Text.cutLast?_append hhost]
    simp only [hlast, Text.cut?_append huser, List.append_assoc]

/-! ## What the stars hide -/

/-- The stars and the marks around them are never part of the word. -/
def AvoidsStars (w : List Char) : Prop :=
  ∀ a b, w <:+: a ++ ":***@".toList ++ b → w <:+: a ++ [':'] ∨ w <:+: '@' :: b

theorem avoidsStars_of_not_mem {w : List Char} (h : '*' ∉ w) : AvoidsStars w := by
  intro a b hw
  have he : a ++ ":***@".toList ++ b = (a ++ [':']) ++ '*' :: '*' :: '*' :: '@' :: b := by simp
  rw [he, Text.infix_append_cons_iff h] at hw
  rcases hw with hw | hw
  · exact .inl hw
  · have h₁ := Text.infix_append_cons_iff h [] ('*' :: '@' :: b)
    have h₂ := Text.infix_append_cons_iff h [] ('@' :: b)
    rw [List.nil_append, List.infix_nil] at h₁ h₂
    rcases h₁.mp hw with rfl | hw
    · exact .inr List.nil_infix
    · rcases h₂.mp hw with rfl | hw
      · exact .inr List.nil_infix
      · exact .inr hw

/-- The stars take the place of something between two places of a text. -/
def Covers (s : List Char) (i j : Nat) : Prop :=
  ∃ user hidden host, passwordIn? (authority s) = some (user, hidden, host) ∧
    ((splitAuthority s).1 ++ user).length + 1 < j ∧
    i < ((splitAuthority s).1 ++ user).length + 1 + hidden.length

variable {w a b before after : List Char}

/-- Before the stars and after them the text is the same. -/
theorem infix_redacted_of_not_covers (hc : ¬ Covers (a ++ w ++ b) a.length (a ++ w).length) :
    w <:+: redacted (a ++ w ++ b) := by
  cases hp : passwordIn? (authority (a ++ w ++ b)) with
  | none =>
    rw [redacted_of_none hp]
    exact ⟨a, b, rfl⟩
  | some r =>
    obtain ⟨user, hidden, host⟩ := r
    obtain ⟨x, y, hx, hs, hr⟩ := redacted_of_some hp
    rw [hr]
    have hcases : (a ++ w).length ≤ x.length + 1 ∨ x.length + 1 + hidden.length ≤ a.length := by
      apply Classical.byContradiction
      intro hn
      rw [not_or, Nat.not_le, Nat.not_le] at hn
      exact hc ⟨user, hidden, host, hp, by rw [← hx]; exact hn.1, by rw [← hx]; exact hn.2⟩
    rcases hcases with hle | hle
    · obtain ⟨z, hz⟩ : a ++ w <+: x ++ [':'] := by
        refine List.prefix_of_prefix_length_le ⟨b, rfl⟩ ⟨hidden ++ '@' :: y, ?_⟩
          (by simpa using hle)
        rw [hs]
        simp
      refine ⟨a, z ++ "***@".toList ++ y, ?_⟩
      calc a ++ w ++ (z ++ "***@".toList ++ y) = (a ++ w ++ z) ++ "***@".toList ++ y := by simp
        _ = x ++ ":***@".toList ++ y := by rw [hz]; simp
    · obtain ⟨z, rfl⟩ : x ++ ':' :: hidden <+: a := by
        refine List.prefix_of_prefix_length_le ⟨'@' :: y, hs.symm⟩ ⟨w ++ b, by simp⟩ ?_
        simp only [List.length_append, List.length_cons]
        omega
      have hy : '@' :: y = z ++ w ++ b := by
        have := hs.symm
        simpa only [List.append_assoc, List.append_cancel_left_eq] using this
      refine ⟨x ++ ":***".toList ++ z, b, ?_⟩
      calc x ++ ":***".toList ++ z ++ w ++ b = x ++ ":***".toList ++ (z ++ w ++ b) := by simp
        _ = x ++ ":***@".toList ++ y := by rw [← hy]; simp

/-- A word that stands once in the whole text has no place left when some of it is covered: the
text before the stars and the one after them are too short. -/
theorem not_infix_redacted_of_covers (hstars : AvoidsStars w)
    (honce : OnceIn w (before ++ (a ++ w ++ b) ++ after))
    (hc : Covers (a ++ w ++ b) a.length (a ++ w).length) :
    ¬ w <:+: before ++ redacted (a ++ w ++ b) ++ after := by
  obtain ⟨user, hidden, host, hp, hi, hj⟩ := hc
  obtain ⟨x, y, hx, hs, hr⟩ := redacted_of_some hp
  rw [← hx, List.length_append] at hi
  rw [← hx] at hj
  have hplace : ∀ c d, before ++ (a ++ w ++ b) ++ after = c ++ w ++ d →
      c.length = before.length + a.length := by
    intro c d hcd
    have := honce c d (before ++ a) (b ++ after) hcd (by simp)
    rw [this, List.length_append]
  intro hw
  have hw' : w <:+: (before ++ x) ++ ":***@".toList ++ (y ++ after) := by
    rw [hr] at hw
    simpa only [List.append_assoc] using hw
  rcases hstars _ _ hw' with ⟨c, d, hcd⟩ | ⟨c, d, hcd⟩
  · have hfull : before ++ (a ++ w ++ b) ++ after =
        c ++ w ++ (d ++ hidden ++ '@' :: y ++ after) := by
      calc before ++ (a ++ w ++ b) ++ after
          = (before ++ x ++ [':']) ++ (hidden ++ '@' :: y ++ after) := by rw [hs]; simp
        _ = c ++ w ++ (d ++ hidden ++ '@' :: y ++ after) := by rw [← hcd]; simp
    have := hplace _ _ hfull
    have hlen := congrArg List.length hcd
    simp only [List.length_append, List.length_singleton] at hlen
    omega
  · have hfull : before ++ (a ++ w ++ b) ++ after =
        (before ++ x ++ ':' :: hidden ++ c) ++ w ++ d := by
      calc before ++ (a ++ w ++ b) ++ after
          = (before ++ x ++ ':' :: hidden) ++ '@' :: (y ++ after) := by rw [hs]; simp
        _ = (before ++ x ++ ':' :: hidden ++ c) ++ w ++ d := by rw [← hcd]; simp
    have := hplace _ _ hfull
    simp only [List.length_append, List.length_cons] at this
    omega

/-- A word that stands once is told unless stars cover some of it. -/
theorem infix_redacted_iff (hstars : AvoidsStars w)
    (honce : OnceIn w (before ++ (a ++ w ++ b) ++ after)) :
    w <:+: before ++ redacted (a ++ w ++ b) ++ after ↔
      ¬ Covers (a ++ w ++ b) a.length (a ++ w).length := by
  refine ⟨fun hw hc => not_infix_redacted_of_covers hstars honce hc hw, fun hc => ?_⟩
  exact (infix_redacted_of_not_covers hc).trans ⟨before, after, rfl⟩

end ProxyRouting.ProxyVariable
