import ProxyRouting.Proofs.Redaction.Stars
import ProxyRouting.Proofs.Text.Digit
import ProxyRouting.Proofs.Text.Offset

/-!
# Stars for the password and for nothing else

The stars take the place of the password where the authority is looked for at the user, and of nothing
where no password is found.  A value with stars in it has its authority where it was before, so that
hiding the password again changes nothing.  The value is put together from what stands before the
stars and after them, by places told in bytes; none of these is inside of a character
(`IsCutAtPositions`).

    redacted (lead ++ user ++ ":" ++ password ++ "@" ++ rest) = lead ++ user ++ ":***@" ++ rest
    redacted (redacted s) = redacted s
    redactedByPlaces? s = some (redacted s)
-/

namespace ProxyRouting.ProxyVariable

open Text (cut? cutLast? cutAt? byteLength takeBytes? dropBytes?)
open Destination

variable {s lead user password rest : List Char}

/-! ## Where the authority is looked for -/

/-- What stands before the user: a scheme and its mark or, where the value has no mark, nothing or a
pair of slashes. -/
inductive Opens : List Char → List Char → Prop
  | scheme {name rest : List Char} (hname : ':' ∉ name) : Opens (name ++ authorityMark) rest
  | bare {rest : List Char} (hmark : ¬ authorityMark <:+: rest) : Opens [] rest
  | slashes {rest : List Char} (hmark : ¬ authorityMark <:+: ['/', '/'] ++ rest) :
    Opens ['/', '/'] rest

theorem Opens.splitAuthority_eq (h : Opens lead rest) (hslashes : ¬ ['/', '/'] <+: rest) :
    splitAuthority (lead ++ rest) = (lead, rest) := by
  cases h with
  | scheme hname => exact splitAuthority_scheme hname rest
  | bare hmark =>
    exact splitAuthority_bare ((Text.cutAt?_eq_none_iff (by decide)).mpr hmark) hslashes
  | slashes hmark =>
    exact splitAuthority_slashes ((Text.cutAt?_eq_none_iff (by decide)).mpr hmark)

/-- Without a mark, what opens the value is nothing or a pair of slashes. -/
theorem lead_of_no_mark (hmark : cutAt? authorityMark s = none)
    (hsplit : splitAuthority s = (lead, rest)) : lead = [] ∨ lead = ['/', '/'] := by
  by_cases hslashes : ['/', '/'] <+: s
  · obtain ⟨t, rfl⟩ := hslashes
    rw [splitAuthority_slashes hmark] at hsplit
    exact .inr (congrArg Prod.fst hsplit).symm
  · rw [splitAuthority_bare hmark hslashes] at hsplit
    exact .inl (congrArg Prod.fst hsplit).symm

/-! ## Values with a password -/

/-- The value has a user and a password, and the authority is looked for at the user. -/
structure HasPassword (s lead user password rest : List Char) : Prop where
  split : splitAuthority s = (lead, user ++ ':' :: password ++ '@' :: rest)
  colon : ':' ∉ user
  user_plain : ∀ c ∈ user, isDelimiter c = false
  password_plain : ∀ c ∈ password, isDelimiter c = false
  at_last : '@' ∉ upToDelimiter rest

theorem upToDelimiter_info (huser : ∀ c ∈ user, isDelimiter c = false)
    (hpassword : ∀ c ∈ password, isDelimiter c = false) (rest : List Char) :
    upToDelimiter (user ++ ':' :: password ++ '@' :: rest) =
      user ++ ':' :: password ++ '@' :: upToDelimiter rest := by
  have hinfo : ∀ c ∈ user ++ ':' :: password, isDelimiter c = false := by
    intro c hc
    rcases List.mem_append.mp hc with hc | hc
    · exact huser c hc
    · rcases List.mem_cons.mp hc with rfl | hc
      · rfl
      · exact hpassword c hc
  rw [upToDelimiter_append hinfo]
  rfl

theorem not_prefix_slashes (huser : ∀ c ∈ user, isDelimiter c = false)
    (password rest : List Char) : ¬ ['/', '/'] <+: user ++ ':' :: password ++ '@' :: rest := by
  rintro ⟨more, hmore⟩
  cases user with
  | nil => exact absurd (List.cons.inj hmore).1 (by decide)
  | cons c user =>
    obtain rfl : '/' = c := (List.cons.inj hmore).1
    exact absurd (huser '/' List.mem_cons_self) (by decide)

/-- Where a password is found, the value is such a one. -/
theorem exists_hasPassword (h : passwordIn? (authority s) = some (user, password, rest)) :
    ∃ lead after, HasPassword s lead user password after := by
  obtain ⟨hauthority, hcolon, hat⟩ := passwordIn?_eq_some_iff.mp h
  have hplain : ∀ c ∈ user ++ ':' :: password ++ '@' :: rest, isDelimiter c = false := by
    rw [← hauthority]
    exact fun c hc => by simpa using List.mem_takeWhile_imp hc
  have huser : ∀ c ∈ user, isDelimiter c = false := fun c hc => hplain c (by simp [hc])
  have hpassword : ∀ c ∈ password, isDelimiter c = false := fun c hc => hplain c (by simp [hc])
  have hrest := upToDelimiter_append_drop (splitAuthority s).2
  unfold authority at hauthority
  rw [hauthority] at hrest
  let after := rest ++ (splitAuthority s).2.drop (user ++ ':' :: password ++ '@' :: rest).length
  have hsecond : (splitAuthority s).2 = user ++ ':' :: password ++ '@' :: after := by
    rw [← hrest, List.append_assoc, List.cons_append]
  refine ⟨(splitAuthority s).1, after, ?_, hcolon, huser, hpassword, ?_⟩
  · rw [← hsecond]
  · have hafter := upToDelimiter_info huser hpassword after
    rw [← hsecond, hauthority, List.append_cancel_left_eq] at hafter
    rwa [← (List.cons.inj hafter).2]

namespace HasPassword

variable (h : HasPassword s lead user password rest)

include h

theorem text_eq : s = lead ++ (user ++ ':' :: password ++ '@' :: rest) := by
  have hwhole := splitAuthority_append s
  rw [h.split] at hwhole
  exact hwhole.symm

theorem authority_eq : authority s = user ++ ':' :: password ++ '@' :: upToDelimiter rest := by
  rw [authority, h.split]
  exact upToDelimiter_info h.user_plain h.password_plain rest

theorem redacted_eq : redacted s = lead ++ user ++ ":***@".toList ++ rest := by
  obtain ⟨a, b, ha, hs, hr⟩ :=
    redacted_of_some (passwordIn?_eq_some_iff.mpr ⟨h.authority_eq, h.colon, h.at_last⟩)
  rw [h.split] at ha
  have hwhole := h.text_eq
  rw [hs, ha] at hwhole
  obtain rfl : b = rest := by simpa using hwhole
  rw [hr, ha]

/-- The stars make no mark, and the authority stays where it is. -/
theorem splitAuthority_stars :
    splitAuthority (lead ++ (user ++ ':' :: "***".toList ++ '@' :: rest)) =
      (lead, user ++ ':' :: "***".toList ++ '@' :: rest) := by
  have hsplit := h.split
  cases hmark : cutAt? authorityMark s with
  | some r =>
    rw [splitAuthority_of_mark hmark, Prod.mk.injEq] at hsplit
    obtain ⟨rfl, -⟩ := hsplit
    exact splitAuthority_of_mark (Text.cutAt?_replace (by decide) hmark _)
  | none =>
    have hs := (Text.cutAt?_eq_none_iff (by decide)).mp hmark
    have hstars : ¬ authorityMark <:+: lead ++ (user ++ ':' :: "***".toList ++ '@' :: rest) := by
      have he : lead ++ (user ++ ':' :: "***".toList ++ '@' :: rest) =
          (lead ++ user ++ [':']) ++ "***@".toList ++ rest := by simp
      rw [he, Text.infix_append_append_iff (by decide) (by decide) (Text.forall_mem (by decide))]
      rintro (hin | hin)
      · exact hs (hin.trans ⟨[], password ++ '@' :: rest, by rw [h.text_eq]; simp⟩)
      · exact hs (hin.trans ⟨lead ++ user ++ ':' :: password ++ ['@'], [], by
          rw [h.text_eq]; simp⟩)
    have hslashes := not_prefix_slashes h.user_plain "***".toList rest
    rcases lead_of_no_mark hmark hsplit with rfl | rfl
    · exact (Opens.bare hstars).splitAuthority_eq hslashes
    · exact (Opens.slashes hstars).splitAuthority_eq hslashes

/-- The value with stars has them for its password. -/
theorem stars : HasPassword (redacted s) lead user "***".toList rest where
  split := by
    have he : lead ++ user ++ ":***@".toList ++ rest =
        lead ++ (user ++ ':' :: "***".toList ++ '@' :: rest) := by simp
    rw [h.redacted_eq, he]
    exact h.splitAuthority_stars
  colon := h.colon
  user_plain := h.user_plain
  password_plain := Text.forall_mem (by decide)
  at_last := h.at_last

end HasPassword

theorem redacted_redacted (s : List Char) : redacted (redacted s) = redacted s := by
  cases hp : passwordIn? (authority s) with
  | none => rw [redacted_of_none hp, redacted_of_none hp]
  | some r =>
    obtain ⟨lead, after, h⟩ := exists_hasPassword hp
    rw [h.stars.redacted_eq, h.redacted_eq]

/-- No colon before the last at-sign: nothing is hidden. -/
theorem redacted_of_no_colon
    (h : ∀ info host, authority s = info ++ '@' :: host → '@' ∉ host → ':' ∉ info) :
    redacted s = s := by
  apply redacted_of_none
  rw [Option.eq_none_iff_forall_ne_some]
  rintro ⟨user, password, host⟩ hp
  obtain ⟨hauthority, -, hhost⟩ := passwordIn?_eq_some_iff.mp hp
  exact h _ host hauthority hhost (by simp)

/-! ## Places told in bytes -/

/-- The place of the first such character. -/
def placeOf? (c : Char) (s : List Char) : Option Nat :=
  (cut? c s).map fun r => byteLength r.1

/-- The place of the last such character. -/
def lastPlaceOf? (c : Char) (s : List Char) : Option Nat :=
  (cutLast? c s).map fun r => byteLength r.1

/-- The place where the authority starts. -/
def authorityPlace (s : List Char) : Nat :=
  match cutAt? authorityMark s with
  | some (scheme, _) => byteLength scheme + 3
  | none => if ['/', '/'].isPrefixOf s then 2 else 0

/-- The authority between its two places; nothing where one of them is not valid. -/
def authorityByPlaces? (s : List Char) : Option (List Char) :=
  (dropBytes? (authorityPlace s) s).bind fun rest =>
    takeBytes? (byteLength (upToDelimiter rest)) rest

/-- The value with stars from one place to another; nothing where a place is not valid. -/
def redactedByPlaces? (s : List Char) : Option (List Char) :=
  (authorityByPlaces? s).bind fun authority =>
    match lastPlaceOf? '@' authority with
    | none => some s
    | some mark => (takeBytes? mark authority).bind fun info =>
      match placeOf? ':' info with
      | none => some s
      | some colon => (takeBytes? (authorityPlace s + colon + 1) s).bind fun before =>
        (dropBytes? (authorityPlace s + mark) s).map fun after =>
          before ++ "***".toList ++ after

theorem authorityPlace_eq (s : List Char) : authorityPlace s = byteLength (splitAuthority s).1 := by
  unfold authorityPlace
  cases hmark : cutAt? authorityMark s with
  | some r =>
    rw [splitAuthority_of_mark hmark]
    exact (Text.byteLength_append r.1 authorityMark).symm
  | none =>
    by_cases hslashes : ['/', '/'] <+: s
    · obtain ⟨t, rfl⟩ := hslashes
      rw [splitAuthority_slashes hmark]
      rfl
    · rw [splitAuthority_bare hmark hslashes]
      exact if_neg fun h => hslashes (List.isPrefixOf_iff_prefix.mp h)

theorem dropBytes?_authorityPlace (s : List Char) :
    dropBytes? (authorityPlace s) s = some (splitAuthority s).2 :=
  Text.dropBytes?_eq (splitAuthority_append s).symm (authorityPlace_eq s)

theorem authorityByPlaces?_eq (s : List Char) : authorityByPlaces? s = some (authority s) := by
  rw [authorityByPlaces?, dropBytes?_authorityPlace, Option.bind_some]
  exact Text.takeBytes?_eq (upToDelimiter_append_drop _).symm rfl

theorem redactedByPlaces?_of_none (h : passwordIn? (authority s) = none) :
    redactedByPlaces? s = some s := by
  rw [redactedByPlaces?, authorityByPlaces?_eq, Option.bind_some, lastPlaceOf?]
  cases hlast : cutLast? '@' (authority s) with
  | none => rfl
  | some r =>
    have hcolon : cut? ':' r.1 = none := by
      rw [passwordIn?, hlast] at h
      exact Option.map_eq_none_iff.mp h
    have hinfo := Text.takeBytes?_eq (Text.cutLast?_eq_some_iff.mp hlast).1 rfl
    simp only [Option.map_some, hinfo, Option.bind_some, placeOf?, hcolon, Option.map_none]

/-- The value up to the colon after the user. -/
theorem HasPassword.takeBytes?_eq (h : HasPassword s lead user password rest) :
    takeBytes? (authorityPlace s + byteLength user + 1) s = some (lead ++ user ++ [':']) := by
  refine Text.takeBytes?_eq (b := password ++ '@' :: rest) (by rw [h.text_eq]; simp) ?_
  rw [Text.byteLength_append, Text.byteLength_append, authorityPlace_eq, h.split]
  rfl

/-- The value from the at-sign after the password on. -/
theorem HasPassword.dropBytes?_eq (h : HasPassword s lead user password rest) :
    dropBytes? (authorityPlace s + byteLength (user ++ ':' :: password)) s =
      some ('@' :: rest) := by
  refine Text.dropBytes?_eq (a := lead ++ (user ++ ':' :: password)) ?_ ?_
  · exact h.text_eq.trans (List.append_assoc ..).symm
  · rw [Text.byteLength_append lead, authorityPlace_eq, h.split]

theorem HasPassword.redactedByPlaces?_eq (h : HasPassword s lead user password rest) :
    redactedByPlaces? s = some (redacted s) := by
  have hlast : lastPlaceOf? '@' (authority s) = some (byteLength (user ++ ':' :: password)) := by
    rw [lastPlaceOf?, h.authority_eq, Text.cutLast?_append h.at_last]
    rfl
  have hinfo : takeBytes? (byteLength (user ++ ':' :: password)) (authority s) =
      some (user ++ ':' :: password) := Text.takeBytes?_eq h.authority_eq rfl
  have hcolon : placeOf? ':' (user ++ ':' :: password) = some (byteLength user) := by
    rw [placeOf?, Text.cut?_append h.colon]
    rfl
  rw [redactedByPlaces?, authorityByPlaces?_eq, Option.bind_some, hlast]
  simp only [hinfo, Option.bind_some, hcolon, h.takeBytes?_eq, h.dropBytes?_eq, Option.map_some,
    h.redacted_eq]
  simp

/-- What stands before and after the stars is told by places. -/
theorem redactedByPlaces?_eq (s : List Char) : redactedByPlaces? s = some (redacted s) := by
  cases hp : passwordIn? (authority s) with
  | none => rw [redactedByPlaces?_of_none hp, redacted_of_none hp]
  | some r =>
    obtain ⟨lead, after, h⟩ := exists_hasPassword hp
    exact h.redactedByPlaces?_eq

/-- The places that the value is cut at are positions of it: where the authority starts, after the
colon and at the at-sign. -/
structure IsCutAtPositions (s : List Char) : Prop where
  authority : String.Pos.Raw.IsValid (String.ofList s) ⟨authorityPlace s⟩
  password {user password host : List Char}
    (h : passwordIn? (ProxyVariable.authority s) = some (user, password, host)) :
    String.Pos.Raw.IsValid (String.ofList s) ⟨authorityPlace s + byteLength user + 1⟩ ∧
      String.Pos.Raw.IsValid (String.ofList s)
        ⟨authorityPlace s + byteLength (user ++ ':' :: password)⟩

theorem isCutAtPositions (s : List Char) : IsCutAtPositions s := by
  refine ⟨Text.isValid_of_dropBytes? (dropBytes?_authorityPlace s), fun h => ?_⟩
  obtain ⟨lead, after, h⟩ := exists_hasPassword h
  exact ⟨Text.isValid_of_takeBytes? h.takeBytes?_eq, Text.isValid_of_dropBytes? h.dropBytes?_eq⟩

/-! ## Top theorem -/

/-- **The password and nothing else.**  In a value that opens with a scheme, a pair of slashes or
nothing, the stars stand for the password between the colon after the user and the last at-sign of
the authority.  A value without a colon before that at-sign, or without the at-sign, is told as it is.
What is told is told again as it is, and all places that it is cut at are positions of the value. -/
theorem redacted_hides_password :
    (∀ lead user password rest, Opens lead (user ++ ':' :: password ++ '@' :: rest) →
      (∀ c ∈ user, c ≠ ':' ∧ isDelimiter c = false) → (∀ c ∈ password, isDelimiter c = false) →
      '@' ∉ upToDelimiter rest →
      redacted (lead ++ (user ++ ':' :: password ++ '@' :: rest)) =
        lead ++ user ++ ":***@".toList ++ rest) ∧
    (∀ s, (∀ info host, authority s = info ++ '@' :: host → '@' ∉ host → ':' ∉ info) →
      redacted s = s) ∧
    (∀ s, redacted (redacted s) = redacted s) ∧
    (∀ s, redactedByPlaces? s = some (redacted s)) ∧ ∀ s, IsCutAtPositions s := by
  refine ⟨fun lead user password rest hopens huser hpassword hrest => ?_,
    fun s => redacted_of_no_colon, redacted_redacted, redactedByPlaces?_eq, isCutAtPositions⟩
  have hplain : ∀ c ∈ user, isDelimiter c = false := fun c hc => (huser c hc).2
  have h : HasPassword (lead ++ (user ++ ':' :: password ++ '@' :: rest)) lead user password rest :=
    { split := hopens.splitAuthority_eq (not_prefix_slashes hplain password rest)
      colon := fun hc => (huser _ hc).1 rfl
      user_plain := hplain
      password_plain := hpassword
      at_last := hrest }
  exact h.redacted_eq

/-- Colons and at-signs within the password, and an at-sign after the authority. -/
theorem redacted_hides_password_marks :
    redacted "//ü:p:@ß@proxy:80/x@y".toList = "//ü:***@proxy:80/x@y".toList := by
  have hmark : ¬ authorityMark <:+: "//ü:p:@ß@proxy:80/x@y".toList := by decide +kernel
  exact redacted_hides_password.1 "//".toList "ü".toList "p:@ß".toList "proxy:80/x@y".toList
    (.slashes hmark) (Text.forall_mem (by decide +kernel)) (Text.forall_mem (by decide +kernel))
    (by decide +kernel)

end ProxyRouting.ProxyVariable
