import ProxyRouting.Proofs.Redaction.Stars
import ProxyRouting.Proofs.Text.Blank

/-!
# Values with a password

Where the authority of a value with a user and a password is looked for, and so whether the stars
stand for some of the password.  It is looked for from `://`, or a pair of slashes at the start, up
to the first `/`, `?` or `#`; slashes too many, a delimiter in the password or another `://` lead
away from the password.

    value = lead ++ user ++ ":" ++ password ++ "@" ++ rest
    the stars cover some of the password ↔ value.Shielded                 (covers_iff_shielded)
-/

namespace ProxyRouting.ProxyVariable

open Text (trim trimLeft trimRight isBlank cutAt?)
open Destination

/-! ## Values with a password -/

/-- What stands before the user: nothing or slashes, or a scheme with its mark and, it may be, more
slashes. -/
inductive Lead
  | bare (slashes : Nat)
  | schemed (scheme : List Char) (isScheme : ∀ c ∈ scheme, Url.isSchemeChar c = true)
    (slashes : Nat)

def Lead.text : Lead → List Char
  | bare n => List.replicate n '/'
  | schemed scheme _ n => scheme ++ authorityMark ++ List.replicate n '/'

structure Login where
  lead : Lead
  user : List Char
  /-- May hold any characters. -/
  password : List Char
  rest : List Char
  user_plain : ∀ c ∈ user, c ∉ ":/?#@".toList
  password_ne : password ≠ []

namespace Login

/-- What stands before the password. -/
def head (v : Login) : List Char :=
  v.lead.text ++ v.user ++ [':']

def text (v : Login) : List Char :=
  v.head ++ v.password ++ '@' :: v.rest

/-- The authority is looked for at the user. -/
def StartsAtUser (v : Login) : Prop :=
  match v.lead with
  | .schemed _ _ n => n = 0
  | .bare n =>
    (n = 0 ∨ n = 2) ∧ ¬ authorityMark <:+: ':' :: v.password ∧ ¬ authorityMark <:+: v.rest

/-- Stars stand for some of the password. -/
inductive Shielded (v : Login) : Prop
  /-- Nothing in the password ends the authority. -/
  | whole (start : v.StartsAtUser) (plain : ∀ c ∈ v.password, isDelimiter c = false)
  /-- What a password has before a delimiter is hidden up to its last at-sign. -/
  | upToMark (start : v.StartsAtUser) (hidden kept : List Char) (hidden_ne : hidden ≠ [])
    (cut : upToDelimiter v.password = hidden ++ '@' :: kept)
  /-- The mark is in the password, which has a colon after it. -/
  | fromColon (bare : ∃ n, v.lead = .bare n) (before after : List Char)
    (mark : cutAt? authorityMark (':' :: v.password) = some (before, after))
    (plain : ∀ c ∈ after, isDelimiter c = false) (colon : ':' ∈ after.dropLast)
  /-- The same, with a delimiter in the password; at-sign and colon stand before it. -/
  | betweenMarks (bare : ∃ n, v.lead = .bare n) (before after : List Char)
    (mark : cutAt? authorityMark (':' :: v.password) = some (before, after))
    (user hidden kept : List Char)
    (cut : upToDelimiter after = user ++ ':' :: hidden ++ '@' :: kept)

/-! ## Where the authority of a login is looked for -/

variable {v : Login}

theorem text_eq (v : Login) :
    v.text = v.lead.text ++ v.user ++ ':' :: (v.password ++ '@' :: v.rest) := by
  simp [text, head]

theorem colon_not_mem_user (v : Login) : ':' ∉ v.user := fun h => v.user_plain _ h (by decide)

theorem isDelimiter_user (v : Login) : ∀ c ∈ v.user, isDelimiter c = false := by
  intro c hc
  have := v.user_plain c hc
  simp only [String.reduceToList, List.mem_cons, List.not_mem_nil, or_false, not_or] at this
  simp [isDelimiter, this]

theorem colon_not_mem_scheme {scheme : List Char}
    (h : ∀ c ∈ scheme, Url.isSchemeChar c = true) : ':' ∉ scheme := fun hc => by
  have := h _ hc
  revert this
  decide

theorem splitAuthority_schemed {scheme : List Char} {h : ∀ c ∈ scheme, Url.isSchemeChar c = true}
    {n : Nat} (hl : v.lead = .schemed scheme h n) :
    splitAuthority v.text = (scheme ++ authorityMark,
      List.replicate n '/' ++ v.user ++ ':' :: (v.password ++ '@' :: v.rest)) := by
  have he : v.text = scheme ++ authorityMark ++
      (List.replicate n '/' ++ v.user ++ ':' :: (v.password ++ '@' :: v.rest)) := by
    rw [text_eq, hl]
    simp [Lead.text]
  rw [he]
  exact splitAuthority_scheme (colon_not_mem_scheme h) _

/-- Without a scheme the first mark is in the password, or in what follows it. -/
theorem cutAt?_bare {n : Nat} (hl : v.lead = .bare n) :
    cutAt? authorityMark v.text =
      (cutAt? authorityMark (':' :: v.password ++ '@' :: v.rest)).map
        fun r => (v.lead.text ++ v.user ++ r.1, r.2) := by
  have hcolon : ':' ∉ v.lead.text ++ v.user := by
    rw [List.mem_append, not_or, hl]
    refine ⟨fun h => ?_, v.colon_not_mem_user⟩
    have := List.eq_of_mem_replicate h
    revert this
    decide
  rw [text_eq]
  exact cutAt?_mark_append hcolon _

theorem splitAuthority_mark_in_password {n : Nat} (hl : v.lead = .bare n) {x y : List Char}
    (h : cutAt? authorityMark (':' :: v.password) = some (x, y)) :
    splitAuthority v.text =
      (v.lead.text ++ v.user ++ x ++ authorityMark, y ++ '@' :: v.rest) := by
  apply splitAuthority_of_mark
  rw [cutAt?_bare hl, Text.cutAt?_append_cons (by decide) (by decide), h]
  rfl

theorem splitAuthority_mark_in_rest {n : Nat} (hl : v.lead = .bare n) {x y : List Char}
    (hpassword : cutAt? authorityMark (':' :: v.password) = none)
    (h : cutAt? authorityMark v.rest = some (x, y)) :
    splitAuthority v.text = (v.head ++ v.password ++ '@' :: x ++ authorityMark, y) := by
  apply splitAuthority_of_mark
  rw [cutAt?_bare hl, Text.cutAt?_append_cons (by decide) (by decide), hpassword, h]
  simp [head]

theorem user_first_ne_slash (v : Login) (s : List Char) :
    ∃ c t, v.user ++ ':' :: s = c :: t ∧ c ≠ '/' := by
  cases hu : v.user with
  | nil => exact ⟨':', s, rfl, by decide⟩
  | cons c u =>
    refine ⟨c, _, rfl, fun hc => v.user_plain c ?_ (by rw [hc]; decide)⟩
    rw [hu]
    exact List.mem_cons_self ..

/-- Without a mark a pair of slashes at the start is dropped, and only the pair. -/
theorem splitAuthority_no_mark {n : Nat} (hl : v.lead = .bare n)
    (hpassword : cutAt? authorityMark (':' :: v.password) = none)
    (hrest : cutAt? authorityMark v.rest = none) :
    ∃ k, k = (if n < 2 then 0 else 2) ∧ splitAuthority v.text = (List.replicate k '/',
      List.replicate (n - k) '/' ++ (v.user ++ ':' :: (v.password ++ '@' :: v.rest))) := by
  have hcut : cutAt? authorityMark v.text = none := by
    rw [cutAt?_bare hl, Text.cutAt?_append_cons (by decide) (by decide), hpassword, hrest]
    rfl
  have htext : v.text =
      List.replicate n '/' ++ (v.user ++ ':' :: (v.password ++ '@' :: v.rest)) := by
    rw [text_eq, hl, Lead.text, List.append_assoc]
  obtain ⟨c, t, ht, hc⟩ := v.user_first_ne_slash (v.password ++ '@' :: v.rest)
  rw [ht] at htext ⊢
  refine ⟨_, rfl, ?_⟩
  rw [htext] at hcut ⊢
  match n with
  | 0 => exact splitAuthority_bare hcut fun h => hc (List.cons_prefix_cons.mp h).1.symm
  | 1 =>
    refine splitAuthority_bare hcut fun h => ?_
    exact hc (List.cons_prefix_cons.mp (List.cons_prefix_cons.mp h).2).1.symm
  | n + 2 =>
    rw [if_neg (by omega)]
    exact splitAuthority_slashes hcut

theorem splitAuthority_startsAtUser (h : v.StartsAtUser) :
    splitAuthority v.text = (v.lead.text, v.user ++ ':' :: (v.password ++ '@' :: v.rest)) := by
  unfold StartsAtUser at h
  cases hl : v.lead with
  | schemed scheme hs n =>
    rw [hl] at h
    obtain rfl : n = 0 := h
    rw [splitAuthority_schemed hl]
    simp [Lead.text]
  | bare n =>
    rw [hl] at h
    obtain ⟨hn, hpassword, hrest⟩ := h
    rw [← Text.cutAt?_eq_none_iff (by decide)] at hpassword hrest
    obtain ⟨k, hk, hs⟩ := splitAuthority_no_mark hl hpassword hrest
    rw [hs, hk]
    rcases hn with rfl | rfl
    · rfl
    · rfl

/-! ## Which passwords are shielded -/

/-- Where the authority starts at the user, the stars stand before the last at-sign. -/
theorem covers_startsAtUser_iff (h : v.StartsAtUser) :
    Covers v.text v.head.length (v.head ++ v.password).length ↔
      ∃ a b, upToDelimiter (v.password ++ '@' :: v.rest) = a ++ '@' :: b ∧ a ≠ [] := by
  have hsplit := splitAuthority_startsAtUser h
  have hauth : authority v.text =
      v.user ++ ':' :: upToDelimiter (v.password ++ '@' :: v.rest) := by
    rw [authority, hsplit, upToDelimiter_append v.isDelimiter_user]
    rfl
  -- the first colon is the one after the user
  have huser : ∀ {user hidden host}, passwordIn? (authority v.text) = some (user, hidden, host) →
      user = v.user ∧ upToDelimiter (v.password ++ '@' :: v.rest) = hidden ++ '@' :: host ∧
        '@' ∉ host := by
    intro user hidden host hp
    obtain ⟨hs, hu, hh⟩ := passwordIn?_eq_some_iff.mp hp
    rw [hauth, List.append_assoc, List.cons_append] at hs
    have hcut := Text.cut?_append v.colon_not_mem_user
      (upToDelimiter (v.password ++ '@' :: v.rest))
    rw [hs, Text.cut?_append hu] at hcut
    rw [Option.some.injEq, Prod.mk.injEq] at hcut
    exact ⟨hcut.1, hcut.2.symm, hh⟩
  unfold Covers
  rw [hsplit]
  simp only [head, List.length_append, List.length_singleton]
  constructor
  · rintro ⟨user, hidden, host, hp, -, hj⟩
    obtain ⟨rfl, hq, -⟩ := huser hp
    refine ⟨hidden, host, hq, fun hnil => ?_⟩
    rw [hnil, List.length_nil] at hj
    omega
  · rintro ⟨a, b, hq, ha⟩
    obtain ⟨user, hidden, host, hp, -⟩ := passwordIn?_of_colon v.user a b
    rw [List.append_assoc, List.cons_append, ← hq, ← hauth] at hp
    obtain ⟨rfl, hq', hh⟩ := huser hp
    have hlen := Text.length_le_of_cutLast? (Text.cutLast?_append hh hidden) (hq'.symm.trans hq)
    have := List.length_pos_of_ne_nil ha
    have := List.length_pos_of_ne_nil v.password_ne
    exact ⟨_, _, _, hp, by omega, by omega⟩

/-- Where the mark is in the password, the stars stand after a colon that follows the mark. -/
theorem covers_mark_in_password_iff {n : Nat} (hl : v.lead = .bare n) {x y : List Char}
    (h : cutAt? authorityMark (':' :: v.password) = some (x, y)) :
    Covers v.text v.head.length (v.head ++ v.password).length ↔
      ∃ a b c, upToDelimiter (y ++ '@' :: v.rest) = a ++ ':' :: b ++ '@' :: c ∧
        a.length + 1 < y.length := by
  have hsplit := splitAuthority_mark_in_password hl h
  have hauth : authority v.text = upToDelimiter (y ++ '@' :: v.rest) := by
    rw [authority, hsplit]
  have hlen := congrArg List.length ((Text.cutAt?_eq_some_iff (by decide)).mp h).1
  have hmark : authorityMark.length = 3 := by decide
  simp only [List.length_append, List.length_cons, hmark] at hlen
  unfold Covers
  rw [hsplit, hauth]
  simp only [head, List.length_append, List.length_singleton, hmark]
  constructor
  · rintro ⟨user, hidden, host, hp, hi, -⟩
    exact ⟨user, hidden, host, (passwordIn?_eq_some_iff.mp hp).1, by omega⟩
  · rintro ⟨a, b, c, hq, ha⟩
    obtain ⟨user, hidden, host, hp, hle⟩ := passwordIn?_of_colon a b c
    rw [← hq] at hp
    exact ⟨user, hidden, host, hp, by omega, by omega⟩

theorem colon_within_iff {y : List Char} (h : ∀ c ∈ y, isDelimiter c = false)
    {rest : List Char} :
    (∃ a b c, upToDelimiter (y ++ '@' :: rest) = a ++ ':' :: b ++ '@' :: c ∧
      a.length + 1 < y.length) ↔ ':' ∈ y.dropLast := by
  rw [upToDelimiter_append h]
  constructor
  · rintro ⟨a, b, c, hq, ha⟩
    -- more of the text stands after the colon
    obtain ⟨z, rfl⟩ : a ++ [':'] <+: y := by
      refine List.prefix_of_prefix_length_le ⟨b ++ '@' :: c, by rw [hq]; simp⟩ ⟨_, rfl⟩ ?_
      rw [List.length_append, List.length_singleton]
      exact Nat.le_of_lt ha
    have hz : z ≠ [] := by
      rintro rfl
      simp at ha
    rw [List.dropLast_append_of_ne_nil hz]
    simp
  · intro hcolon
    obtain ⟨a, b, hab⟩ := List.append_of_mem hcolon
    have hy : y ≠ [] := by
      rintro rfl
      cases hcolon
    have hlast := List.dropLast_append_getLast hy
    rw [hab] at hlast
    refine ⟨a, b ++ [y.getLast hy], upToDelimiter rest, ?_, ?_⟩
    · conv => lhs; rw [← hlast]
      simp [upToDelimiter, isDelimiter]
    · have := congrArg List.length hlast
      simp only [List.length_append, List.length_cons, List.length_nil] at this
      omega

theorem marks_within_iff {y : List Char} (h : ¬ ∀ c ∈ y, isDelimiter c = false)
    {rest : List Char} :
    (∃ a b c, upToDelimiter (y ++ '@' :: rest) = a ++ ':' :: b ++ '@' :: c ∧
      a.length + 1 < y.length) ↔ ∃ a b c, upToDelimiter y = a ++ ':' :: b ++ '@' :: c := by
  obtain ⟨hcut, hlen⟩ := upToDelimiter_append_of_delimiter h ('@' :: rest)
  rw [hcut]
  constructor
  · rintro ⟨a, b, c, hq, -⟩
    exact ⟨a, b, c, hq⟩
  · rintro ⟨a, b, c, hq⟩
    have := congrArg List.length hq
    simp only [List.length_append, List.length_cons] at this
    exact ⟨a, b, c, hq, by omega⟩

theorem not_covers_of_authority (h : authority s = []) (i j : Nat) : ¬ Covers s i j := by
  rintro ⟨user, hidden, host, hp, -⟩
  rw [h] at hp
  cases hp

theorem not_covers_mark_in_rest {n : Nat} (hl : v.lead = .bare n) {x y : List Char}
    (hpassword : cutAt? authorityMark (':' :: v.password) = none)
    (h : cutAt? authorityMark v.rest = some (x, y)) :
    ¬ Covers v.text v.head.length (v.head ++ v.password).length := by
  rintro ⟨user, hidden, host, -, hi, -⟩
  rw [splitAuthority_mark_in_rest hl hpassword h] at hi
  simp only [List.length_append] at hi
  omega

/-- The authority is looked for at the user, or from inside the password, or where it hides nothing
of it. -/
theorem startsAtUser_or_mark (h : Covers v.text v.head.length (v.head ++ v.password).length) :
    v.StartsAtUser ∨ ∃ n x y, v.lead = .bare n ∧
      cutAt? authorityMark (':' :: v.password) = some (x, y) := by
  cases hl : v.lead with
  | schemed scheme hs n =>
    left
    cases n with
    | zero => rw [StartsAtUser, hl]
    | succ n =>
      refine absurd h (not_covers_of_authority ?_ _ _)
      rw [authority, splitAuthority_schemed hl]
      rfl
  | bare n =>
    cases hpassword : cutAt? authorityMark (':' :: v.password) with
    | some r => exact .inr ⟨n, r.1, r.2, rfl, rfl⟩
    | none =>
      left
      cases hrest : cutAt? authorityMark v.rest with
      | some r => exact absurd h (not_covers_mark_in_rest hl hpassword hrest)
      | none =>
        obtain ⟨k, hk, hs⟩ := splitAuthority_no_mark hl hpassword hrest
        have hn : n - k = 0 := by
          cases hd : n - k with
          | zero => rfl
          | succ d =>
            refine absurd h (not_covers_of_authority ?_ _ _)
            rw [authority, hs, hd]
            rfl
        rw [StartsAtUser, hl]
        refine ⟨?_, (Text.cutAt?_eq_none_iff (by decide)).mp hpassword,
          (Text.cutAt?_eq_none_iff (by decide)).mp hrest⟩
        split at hk <;> omega

theorem Shielded.startsAtUser_or_mark (h : v.Shielded) :
    v.StartsAtUser ∨ ∃ n x y, v.lead = .bare n ∧
      cutAt? authorityMark (':' :: v.password) = some (x, y) := by
  rcases h with ⟨hs, -⟩ | ⟨hs, -⟩ | ⟨⟨n, hl⟩, x, y, hm, -⟩ | ⟨⟨n, hl⟩, x, y, hm, -⟩
  · exact .inl hs
  · exact .inl hs
  · exact .inr ⟨n, x, y, hl, hm⟩
  · exact .inr ⟨n, x, y, hl, hm⟩

theorem shielded_iff_of_startsAtUser (h : v.StartsAtUser) :
    v.Shielded ↔ (∀ c ∈ v.password, isDelimiter c = false) ∨
      ∃ a b, upToDelimiter v.password = a ++ '@' :: b ∧ a ≠ [] := by
  have hmark : ∀ n x y, v.lead = .bare n →
      cutAt? authorityMark (':' :: v.password) ≠ some (x, y) := by
    intro n x y hl hcut
    rw [StartsAtUser, hl] at h
    rw [(Text.cutAt?_eq_none_iff (by decide)).mpr h.2.1] at hcut
    cases hcut
  constructor
  · rintro (⟨-, hp⟩ | ⟨-, a, b, ha, hcut⟩ | ⟨⟨n, hl⟩, x, y, hm, -⟩ | ⟨⟨n, hl⟩, x, y, hm, -⟩)
    · exact .inl hp
    · exact .inr ⟨a, b, hcut, ha⟩
    · exact absurd hm (hmark n x y hl)
    · exact absurd hm (hmark n x y hl)
  · rintro (hp | ⟨a, b, hcut, ha⟩)
    · exact .whole h hp
    · exact .upToMark h a b ha hcut

theorem shielded_iff_of_mark {n : Nat} (hl : v.lead = .bare n) {x y : List Char}
    (h : cutAt? authorityMark (':' :: v.password) = some (x, y)) :
    v.Shielded ↔ (∀ c ∈ y, isDelimiter c = false) ∧ ':' ∈ y.dropLast ∨
      ∃ a b c, upToDelimiter y = a ++ ':' :: b ++ '@' :: c := by
  have hstart : ¬ v.StartsAtUser := by
    rw [StartsAtUser, hl]
    rintro ⟨-, hn, -⟩
    rw [(Text.cutAt?_eq_none_iff (by decide)).mpr hn] at h
    cases h
  constructor
  · rintro (⟨hs, -⟩ | ⟨hs, -⟩ | ⟨-, x', y', hm, hp, hc⟩ | ⟨-, x', y', hm, a, b, c, hq⟩)
    · exact absurd hs hstart
    · exact absurd hs hstart
    · rw [h] at hm
      cases hm
      exact .inl ⟨hp, hc⟩
    · rw [h] at hm
      cases hm
      exact .inr ⟨a, b, c, hq⟩
  · rintro (⟨hp, hc⟩ | ⟨a, b, c, hq⟩)
    · exact .fromColon ⟨n, hl⟩ x y h hp hc
    · exact .betweenMarks ⟨n, hl⟩ x y h a b c hq

theorem covers_iff_of_startsAtUser (h : v.StartsAtUser) :
    Covers v.text v.head.length (v.head ++ v.password).length ↔ v.Shielded := by
  rw [covers_startsAtUser_iff h, shielded_iff_of_startsAtUser h]
  by_cases hplain : ∀ c ∈ v.password, isDelimiter c = false
  · refine ⟨fun _ => .inl hplain, fun _ => ⟨v.password, upToDelimiter v.rest, ?_, v.password_ne⟩⟩
    rw [upToDelimiter_append hplain]
    rfl
  · rw [(upToDelimiter_append_of_delimiter hplain _).1]
    exact ⟨.inr, fun h => h.resolve_left hplain⟩

theorem covers_iff_of_mark {n : Nat} (hl : v.lead = .bare n) {x y : List Char}
    (h : cutAt? authorityMark (':' :: v.password) = some (x, y)) :
    Covers v.text v.head.length (v.head ++ v.password).length ↔ v.Shielded := by
  rw [covers_mark_in_password_iff hl h, shielded_iff_of_mark hl h]
  by_cases hplain : ∀ c ∈ y, isDelimiter c = false
  · rw [colon_within_iff hplain]
    refine ⟨fun hc => .inl ⟨hplain, hc⟩, ?_⟩
    rintro (⟨-, hc⟩ | ⟨a, b, c, hq⟩)
    · exact hc
    · rw [upToDelimiter_eq_self hplain] at hq
      rw [hq, List.dropLast_append_cons]
      simp
  · rw [marks_within_iff hplain]
    exact ⟨.inr, fun h => h.resolve_left fun h' => hplain h'.1⟩

/-- The stars cover some of the password just where it is shielded. -/
theorem covers_iff_shielded (v : Login) :
    Covers v.text v.head.length (v.head ++ v.password).length ↔ v.Shielded := by
  by_cases hcases : v.StartsAtUser ∨ ∃ n x y, v.lead = .bare n ∧
      cutAt? authorityMark (':' :: v.password) = some (x, y)
  · rcases hcases with hstart | ⟨n, x, y, hl, hmark⟩
    · exact covers_iff_of_startsAtUser hstart
    · exact covers_iff_of_mark hl hmark
  · exact ⟨fun h => absurd (startsAtUser_or_mark h) hcases,
      fun h => absurd h.startsAtUser_or_mark hcases⟩

/-! ## Values as they are read, without blanks around them -/

/-- The value without blanks at its ends, which may be at the start of the user and at the end of
the rest. -/
def trimmed (v : Login) : Login where
  lead := v.lead
  user := if v.lead.text = [] then trimLeft v.user else v.user
  password := v.password
  rest := trimRight v.rest
  user_plain := by
    intro c hc
    refine v.user_plain c ?_
    split at hc
    · exact (List.dropWhile_sublist _).subset hc
    · exact hc
  password_ne := v.password_ne

theorem isBlank_of_isSchemeChar {c : Char} (h : Url.isSchemeChar c = true) :
    isBlank c = false := by
  have := Url.toNat_of_isSchemeChar h
  simp [isBlank]
  omega

theorem first_not_blank (l : Lead) :
    l.text = [] ∨ ∃ c t, l.text = c :: t ∧ isBlank c = false := by
  cases l with
  | bare n =>
    cases n with
    | zero => exact .inl rfl
    | succ n => exact .inr ⟨'/', _, rfl, by decide⟩
  | schemed scheme h n =>
    right
    cases scheme with
    | nil => exact ⟨':', _, rfl, by decide⟩
    | cons c t => exact ⟨c, _, rfl, isBlank_of_isSchemeChar (h c (List.mem_cons_self ..))⟩

theorem trimmed_text (v : Login) : v.trimmed.text = trim v.text := by
  have hright : ∀ s, trimRight (s ++ ':' :: (v.password ++ '@' :: v.rest)) =
      s ++ ':' :: (v.password ++ '@' :: trimRight v.rest) := by
    intro s
    have hat : isBlank '@' = false := by decide
    have := Text.trimRight_append_cons hat (s ++ ':' :: v.password) v.rest
    simpa only [List.append_assoc, List.cons_append] using this
  have hcolon : isBlank ':' = false := by decide
  rw [trim, text_eq, text_eq]
  show v.lead.text ++ (if v.lead.text = [] then trimLeft v.user else v.user) ++
    ':' :: (v.password ++ '@' :: trimRight v.rest) = _
  rcases first_not_blank v.lead with hl | ⟨c, t, hl, hc⟩
  · rw [hl, if_pos rfl, List.nil_append, List.nil_append, Text.trimLeft_append_cons hcolon, hright]
  · rw [hl, if_neg (List.cons_ne_nil c t)]
    have hleft : ∀ s, trimLeft (c :: s) = c :: s := fun s =>
      Text.trimLeft_append_cons hc [] s
    simp only [List.cons_append]
    rw [hleft]
    exact (hright (c :: (t ++ v.user))).symm

theorem mark_infix_trimRight_iff (s : List Char) :
    authorityMark <:+: trimRight s ↔ authorityMark <:+: s :=
  Text.infix_trimRight_iff (w := [':', '/']) (c := '/') (by decide) s

theorem startsAtUser_trimmed (v : Login) : v.trimmed.StartsAtUser ↔ v.StartsAtUser := by
  have hl : v.trimmed.lead = v.lead := rfl
  have hp : v.trimmed.password = v.password := rfl
  have hr : v.trimmed.rest = trimRight v.rest := rfl
  unfold StartsAtUser
  rw [hl, hp, hr, mark_infix_trimRight_iff]

theorem shielded_trimmed (v : Login) : v.trimmed.Shielded ↔ v.Shielded := by
  have hs := v.startsAtUser_trimmed
  constructor
  · rintro (⟨h, hp⟩ | ⟨h, a, b, ha, hp⟩ | ⟨h, x, y, hm, hp, hc⟩ | ⟨h, x, y, hm, u, p, k, hp⟩)
    · exact .whole (hs.mp h) hp
    · exact .upToMark (hs.mp h) a b ha hp
    · exact .fromColon h x y hm hp hc
    · exact .betweenMarks h x y hm u p k hp
  · rintro (⟨h, hp⟩ | ⟨h, a, b, ha, hp⟩ | ⟨h, x, y, hm, hp, hc⟩ | ⟨h, x, y, hm, u, p, k, hp⟩)
    · exact .whole (hs.mpr h) hp
    · exact .upToMark (hs.mpr h) a b ha hp
    · exact .fromColon h x y hm hp hc
    · exact .betweenMarks h x y hm u p k hp

end Login

end ProxyRouting.ProxyVariable
