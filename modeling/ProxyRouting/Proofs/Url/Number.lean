import ProxyRouting.Proofs.Url.Port

/-!
# Where a number stands in a URL

Of a text with a number somewhere in it one of two things is true, whatever the number: the port of
the URL has nothing to do with it, or it stands between the colon after the host and the end of the
authority.

    parse (before ++ x ++ after) has the same port for all numbers x, or
      authority? (before ++ x ++ after) = user ++ "@" ++ host ++ ":" ++ zeros ++ x ++ rest for all x
-/

namespace ProxyRouting.Url

/-! ## Numbers in a text -/

/-- Digits, at least one. -/
structure IsNumber (s : List Char) : Prop where
  ne_nil : s ≠ []
  digits : ∀ c ∈ s, c.isDigit = true

/-- Whatever the number, the port is the same. -/
def SamePort (f : List Char → Except Fault Url) : Prop :=
  ∀ x y url url', IsNumber x → IsNumber y → f x = .ok url → f y = .ok url' →
    url.effectivePort? = url'.effectivePort?

/-- What stands around a number after the colon between host and port. -/
structure PortSlot where
  scheme : List Char
  /-- Whether the text ends after the authority. -/
  isLast : Bool
  info : Option (List Char)
  hostText : List Char
  /-- What stands between the colon and the number. -/
  before : List Char
  after : List Char
  at_notMem : '@' ∉ hostText ++ (before ++ after)
  splitHost_eq : ∀ rest, splitHost false (hostText ++ ':' :: rest) = (hostText, ':' :: rest)
  backslash_notMem : '\\' ∉ before

namespace PortSlot

/-- Host and port with a number in its place. -/
def hostPort (slot : PortSlot) (x : List Char) : List Char :=
  slot.hostText ++ ':' :: (slot.before ++ x ++ slot.after)

/-- The authority with a number in its place. -/
def authority (slot : PortSlot) (x : List Char) : List Char :=
  withUserInfo slot.info (slot.hostPort x)

end PortSlot

/-! ## Around a number

Where a function does nothing to digits, what it makes of the text around a number is the same for
all numbers. -/

namespace IsNumber

variable {x : List Char} (hx : IsNumber x)

include hx

theorem forall_mem {P : Char → Prop} (h : ∀ d < 10, P (Char.ofNat (48 + d))) : ∀ c ∈ x, P c :=
  fun c hc => Text.forall_digit h (hx.digits c hc)

variable {p : Char → Bool} (hp : ∀ d < 10, p (Char.ofNat (48 + d)) = false) (before after : List Char)

include hp

theorem dropWhile_eq :
    (before ++ x ++ after).dropWhile p = before.dropWhile p ++ x ++ after := by
  have hfalse := hx.forall_mem (P := fun c => p c = false) hp
  obtain ⟨c, t, rfl⟩ := List.exists_cons_of_ne_nil hx.ne_nil
  rw [List.append_assoc, List.cons_append, Text.dropWhile_append_cons (hfalse c List.mem_cons_self),
    List.append_assoc, List.cons_append]

theorem reverse_dropWhile_eq :
    ((before ++ x ++ after).reverse.dropWhile p).reverse =
      before ++ x ++ (after.reverse.dropWhile p).reverse := by
  have hfalse := hx.forall_mem (P := fun c => p c = false) hp
  obtain ⟨t, c, rfl⟩ : ∃ t c, x = t ++ [c] :=
    ⟨_, _, (List.dropLast_concat_getLast hx.ne_nil).symm⟩
  rw [← List.append_assoc, List.append_assoc _ [c], List.singleton_append,
    Text.reverse_dropWhile_append_cons (hfalse c (by simp)), List.append_assoc (before ++ t),
    List.singleton_append]

theorem filter_not_eq :
    (before ++ x ++ after).filter (fun c => !p c) =
      before.filter (fun c => !p c) ++ x ++ after.filter (fun c => !p c) := by
  have hkept : ∀ c ∈ x, (!p c) = true := hx.forall_mem fun d hd => by rw [hp d hd, Bool.not_false]
  rw [List.filter_append, List.filter_append, List.filter_eq_self.mpr hkept]

/-- Up to the first character with the property: it stands before the number, or not. -/
theorem takeWhile_not_eq :
    (before ++ x ++ after).takeWhile (fun c => !p c) =
      if before.any p then before.takeWhile (fun c => !p c)
      else before ++ x ++ after.takeWhile fun c => !p c := by
  have hkept : ∀ c ∈ x, (!p c) = true := hx.forall_mem fun d hd => by rw [hp d hd, Bool.not_false]
  rw [List.append_assoc]
  split
  · next hany =>
    obtain ⟨c, hc, hpc⟩ := List.any_eq_true.mp hany
    rw [List.takeWhile_append, if_neg]
    intro hlen
    have hall := List.takeWhile_eq_self_iff.mp
      ((List.takeWhile_prefix _).eq_of_length hlen) c hc
    rw [hpc] at hall
    cases hall
  · next hany =>
    have hbefore : ∀ c ∈ before, (!p c) = true := by
      intro c hc
      rw [Bool.not_eq_true, List.any_eq_false] at hany
      simpa using hany c hc
    rw [List.takeWhile_append_of_pos hbefore, List.takeWhile_append_of_pos hkept,
      List.append_assoc]

end IsNumber

theorem stripped_number (before after : List Char) :
    ∃ before' after', ∀ x, IsNumber x → stripped (before ++ x ++ after) = before' ++ x ++ after' := by
  refine ⟨(before.dropWhile isBlank).filter fun c => !isDropped c,
    ((after.reverse.dropWhile isBlank).reverse).filter fun c => !isDropped c, fun x hx => ?_⟩
  unfold stripped
  simp only
  rw [hx.dropWhile_eq (by decide), hx.reverse_dropWhile_eq (by decide)]
  exact hx.filter_not_eq (by decide) _ _

/-! ## A number in a URL -/

/-- No scheme that the reader knows has a digit. -/
theorem defaultPort?_eq_none_of_isDigit {scheme : List Char} {c : Char} (hc : c ∈ scheme)
    (hdigit : c.isDigit = true) : defaultPort? scheme = none ∧ scheme ≠ "file".toList := by
  have hnone {known : List Char} (h : known.all (fun c => !c.isDigit) = true) : scheme ≠ known := by
    rintro rfl
    have := List.all_eq_true.mp h c hc
    rw [hdigit] at this
    cases this
  have hneither {a b : List Char} (ha : a.all (fun c => !c.isDigit) = true)
      (hb : b.all (fun c => !c.isDigit) = true) : ¬(scheme = a || scheme = b) = true := by
    rw [Bool.or_eq_true, decide_eq_true_eq, decide_eq_true_eq, not_or]
    exact ⟨hnone ha, hnone hb⟩
  refine ⟨?_, hnone (by decide)⟩
  unfold defaultPort?
  rw [if_neg (hneither (by decide) (by decide)), if_neg (hneither (by decide) (by decide)),
    if_neg (hnone (by decide))]

theorem splitScheme?_cons (c : Char) (s : List Char) :
    splitScheme? (c :: s) =
      if !c.isAlpha then none
      else
        match (c :: s).dropWhile isSchemeChar with
        | ':' :: rest => some (((c :: s).takeWhile isSchemeChar).map Char.toLower, rest)
        | _ => none :=
  rfl

/-- What follows the end of a scheme is not looked at. -/
theorem splitScheme?_append_right {s : List Char} (h : ¬ ∀ c ∈ s, isSchemeChar c = true)
    (t : List Char) : splitScheme? (s ++ t) = (splitScheme? s).map fun r => (r.1, r.2 ++ t) := by
  have hne : s.dropWhile isSchemeChar ≠ [] := mt List.dropWhile_eq_nil_iff.mp h
  have hdrop : (s ++ t).dropWhile isSchemeChar = s.dropWhile isSchemeChar ++ t := by
    rw [List.dropWhile_append, if_neg (by simpa using hne)]
  have htake : (s ++ t).takeWhile isSchemeChar = s.takeWhile isSchemeChar := by
    rw [List.takeWhile_append, if_neg]
    intro hlen
    exact h (List.takeWhile_eq_self_iff.mp ((List.takeWhile_prefix _).eq_of_length hlen))
  cases s with
  | nil => exact absurd rfl hne
  | cons c s =>
    rw [List.cons_append] at hdrop htake ⊢
    rw [splitScheme?_cons, splitScheme?_cons, hdrop, htake]
    split
    · rfl
    · match (c :: s).dropWhile isSchemeChar, hne with
      | d :: rest, _ =>
        by_cases hd : d = ':'
        · subst hd
          rfl
        · simp [hd]

/-- In the scheme a number makes it one that the reader does not know. -/
theorem splitScheme?_number_within {before : List Char}
    (hbefore : ∀ c ∈ before, isSchemeChar c = true) (after : List Char) :
    (∀ x, IsNumber x → splitScheme? (before ++ x ++ after) = none) ∨
      ∃ rest, ∀ x, IsNumber x → ∃ scheme, defaultPort? scheme = none ∧ scheme ≠ "file".toList ∧
        splitScheme? (before ++ x ++ after) = some (scheme, rest) := by
  have hscheme {x : List Char} (hx : IsNumber x) : ∀ c ∈ before ++ x, isSchemeChar c = true :=
    List.forall_mem_append.mpr
      ⟨hbefore, hx.forall_mem (P := fun c => isSchemeChar c = true) (by decide)⟩
  have hdrop {x : List Char} (hx : IsNumber x) :
      (before ++ x ++ after).dropWhile isSchemeChar = after.dropWhile isSchemeChar :=
    List.dropWhile_append_of_pos (hscheme hx)
  cases before with
  | nil =>
    refine .inl fun x hx => ?_
    obtain ⟨c, t, rfl⟩ := List.exists_cons_of_ne_nil hx.ne_nil
    have hc := hx.forall_mem (P := fun c => c.isAlpha = false) (by decide) c List.mem_cons_self
    rw [List.nil_append, List.cons_append, splitScheme?_cons, hc]
    rfl
  | cons c before =>
    simp only [List.cons_append] at hdrop ⊢
    cases halpha : c.isAlpha with
    | false =>
      refine .inl fun x _ => ?_
      rw [splitScheme?_cons, halpha]
      rfl
    | true =>
      by_cases hcolon : ∃ rest, after.dropWhile isSchemeChar = ':' :: rest
      · obtain ⟨rest, hrest⟩ := hcolon
        refine .inr ⟨rest, fun x hx => ?_⟩
        obtain ⟨d, hd⟩ := List.exists_mem_of_ne_nil x hx.ne_nil
        have hlower : d.toLower = d := hx.forall_mem (P := fun c => c.toLower = c) (by decide) d hd
        have hmem : d ∈ ((c :: before ++ x ++ after).takeWhile isSchemeChar).map Char.toLower := by
          rw [List.takeWhile_append_of_pos (hscheme hx)]
          refine List.mem_map.mpr ⟨d, ?_, hlower⟩
          exact List.mem_append_left _ (List.mem_append_right _ hd)
        obtain ⟨hdefault, hfile⟩ := defaultPort?_eq_none_of_isDigit hmem (hx.digits d hd)
        refine ⟨_, hdefault, hfile, ?_⟩
        rw [splitScheme?_cons, hdrop hx, hrest, halpha]
        rfl
      · refine .inl fun x hx => ?_
        rw [splitScheme?_cons, hdrop hx, halpha, if_neg (by decide)]
        split
        · next rest hrest => exact absurd ⟨rest, hrest⟩ hcolon
        · rfl

/-- A number stands in the scheme, which is then none that the reader knows, or after its colon. -/
theorem splitScheme?_number (before after : List Char) :
    (∀ x, IsNumber x → splitScheme? (before ++ x ++ after) = none) ∨
      (∃ rest, ∀ x, IsNumber x → ∃ scheme, defaultPort? scheme = none ∧ scheme ≠ "file".toList ∧
        splitScheme? (before ++ x ++ after) = some (scheme, rest)) ∨
      ∃ scheme rest, ∀ x, IsNumber x →
        splitScheme? (before ++ x ++ after) = some (scheme, rest ++ x ++ after) := by
  by_cases hall : ∀ c ∈ before, isSchemeChar c = true
  · rcases splitScheme?_number_within hall after with hnone | hscheme
    · exact .inl hnone
    · exact .inr (.inl hscheme)
  · have hsplit (x : List Char) := splitScheme?_append_right hall (x ++ after)
    cases hbefore : splitScheme? before with
    | none =>
      refine .inl fun x _ => ?_
      rw [List.append_assoc, hsplit, hbefore]
      rfl
    | some r =>
      refine .inr (.inr ⟨r.1, r.2, fun x _ => ?_⟩)
      rw [List.append_assoc, hsplit, hbefore, List.append_assoc]
      rfl

/-- The host ends at a colon in the text, whatever follows that, or is not at its end yet. -/
theorem splitHost_cases (inBrackets : Bool) (s : List Char) :
    (∃ host rest, s = host ++ ':' :: rest ∧
      ∀ t, splitHost inBrackets (host ++ ':' :: t) = (host, ':' :: t)) ∨
    ∃ still, ∀ t, splitHost inBrackets (s ++ t) =
      (s ++ (splitHost still t).1, (splitHost still t).2) := by
  induction s generalizing inBrackets with
  | nil => exact .inr ⟨inBrackets, fun _ => rfl⟩
  | cons c s ih =>
    by_cases hend : (c == ':' && !inBrackets) = true
    · obtain ⟨hcolon, hout⟩ := Bool.and_eq_true_iff.mp hend
      rw [beq_iff_eq.mp hcolon]
      refine .inl ⟨[], s, rfl, fun t => ?_⟩
      rw [List.nil_append, splitHost, hout]
      rfl
    · have hstep (t : List Char) : splitHost inBrackets (c :: t) = (c :: (splitHost
          (if c == '[' then true else if c == ']' then false else inBrackets) t).1, (splitHost
          (if c == '[' then true else if c == ']' then false else inBrackets) t).2) := by
        rw [splitHost, if_neg hend]
      rcases ih (if c == '[' then true else if c == ']' then false else inBrackets) with
        ⟨host, rest, rfl, hhost⟩ | ⟨still, hstill⟩
      · refine .inl ⟨c :: host, rest, rfl, fun t => ?_⟩
        rw [List.cons_append, hstep, hhost]
      · refine .inr ⟨still, fun t => ?_⟩
        rw [List.cons_append, hstep, hstill]
        rfl

theorem IsNumber.splitHost_append {x : List Char} (hx : IsNumber x) (inBrackets : Bool)
    (t : List Char) : splitHost inBrackets (x ++ t) =
      (x ++ (splitHost inBrackets t).1, (splitHost inBrackets t).2) := by
  have hplain := hx.forall_mem (P := fun c => c ≠ ':' ∧ c ≠ '[' ∧ c ≠ ']') (by decide)
  clear hx
  induction x with
  | nil => rfl
  | cons c x ih =>
    obtain ⟨hcolon, hopen, hclose⟩ := hplain c List.mem_cons_self
    have := ih fun d hd => hplain d (List.mem_cons_of_mem _ hd)
    simp [splitHost, hcolon, hopen, hclose, this]

/-- Host and port with a number, the host of which ends before it: it stands in the port, or makes
no difference to that. -/
theorem hostPort_number (scheme : List Char) (isLast : Bool) (info : Option (List Char))
    {hostPort after : List Char} (hat : '@' ∉ hostPort ++ after) :
    (∀ x y, IsNumber x → IsNumber y → portText (withUserInfo info (hostPort ++ x ++ after)) =
      portText (withUserInfo info (hostPort ++ y ++ after))) ∨
    ∃ slot : PortSlot, slot.scheme = scheme ∧ slot.isLast = isLast ∧
      ∀ x, withUserInfo info (hostPort ++ x ++ after) = slot.authority x := by
  have hport {x : List Char} (hx : IsNumber x) :
      portText (withUserInfo info (hostPort ++ x ++ after)) =
        ((splitHost false (hostPort ++ (x ++ after))).2.drop 1).takeWhile (· != '\\') := by
    have hnumber := hx.forall_mem (P := fun c => c ≠ '@') (by decide)
    rw [← List.append_assoc]
    refine portText_withUserInfo ?_ info
    simp only [List.mem_append, not_or] at hat ⊢
    exact ⟨⟨hat.1, fun hmem => hnumber _ hmem rfl⟩, hat.2⟩
  rcases splitHost_cases false hostPort with ⟨host, rest, rfl, hsplit⟩ | ⟨still, hstill⟩
  · have hsplit' (t : List Char) :
        (splitHost false (host ++ ':' :: rest ++ t)).2.drop 1 = rest ++ t := by
      rw [List.append_assoc, List.cons_append, hsplit, List.drop_one, List.tail_cons]
    by_cases hbackslash : '\\' ∈ rest
    · -- the digits have ended before the number
      have hany : rest.any (· == '\\') = true := List.any_eq_true.mpr ⟨_, hbackslash, rfl⟩
      have hended {x : List Char} (hx : IsNumber x) :
          (rest ++ (x ++ after)).takeWhile (· != '\\') = rest.takeWhile (· != '\\') := by
        rw [← List.append_assoc]
        exact (hx.takeWhile_not_eq (p := (· == '\\')) (by decide) rest after).trans (if_pos hany)
      refine .inl fun x y hx hy => ?_
      rw [hport hx, hport hy, hsplit', hsplit', hended hx, hended hy]
    · refine .inr ⟨⟨scheme, isLast, info, host, rest, after, ?_, hsplit, hbackslash⟩, rfl, rfl,
        fun x => ?_⟩
      · simp only [List.mem_append, List.mem_cons, not_or] at hat ⊢
        exact ⟨hat.1.1, hat.1.2.2, hat.2⟩
      · simp [PortSlot.authority, PortSlot.hostPort]
  · -- the host has not ended, so the number is a part of it
    refine .inl fun x y hx hy => ?_
    rw [hport hx, hport hy, hstill, hstill, hx.splitHost_append, hy.splitHost_append]

/-- A number in an authority stands in its port, or makes no difference to that. -/
theorem authority_number (scheme : List Char) (isLast : Bool) (before after : List Char) :
    (∀ x y, IsNumber x → IsNumber y →
      portText (before ++ x ++ after) = portText (before ++ y ++ after)) ∨
    ∃ slot : PortSlot, slot.scheme = scheme ∧ slot.isLast = isLast ∧
      ∀ x, before ++ x ++ after = slot.authority x := by
  obtain ⟨info, hostPort, hafter, hat⟩ := exists_withUserInfo after
  cases info with
  | some info =>
    -- the number is a part of the user information
    have hport (x : List Char) : portText (before ++ x ++ after) =
        ((splitHost false hostPort).2.drop 1).takeWhile (· != '\\') := by
      rw [← portText_withUserInfo hat (some (before ++ x ++ info)), hafter]
      simp [withUserInfo]
    exact .inl fun x y _ _ => (hport x).trans (hport y).symm
  | none =>
    obtain rfl : after = hostPort := hafter
    obtain ⟨info, hostPort, rfl, hhost⟩ := exists_withUserInfo before
    have htext (x : List Char) : withUserInfo info hostPort ++ x ++ after =
        withUserInfo info (hostPort ++ x ++ after) := by
      rw [withUserInfo_append, withUserInfo_append]
    simp only [htext]
    exact hostPort_number scheme isLast info (by simp [hhost, hat])

/-- The same of what follows the slashes of a URL: an authority up to its end. -/
theorem readHierarchy_number (scheme before after : List Char) :
    (SamePort fun x => readHierarchy scheme (before ++ x ++ after)) ∨
      ∃ slot : PortSlot, slot.scheme = scheme ∧ ∀ x, IsNumber x →
        readHierarchy scheme (before ++ x ++ after) =
          readAuthority scheme slot.isLast (slot.authority x) ∧
        (before ++ x ++ after).takeWhile (fun c => !isAuthorityEnd (isSpecial scheme) c) =
          slot.authority x := by
  have hdigit : ∀ d < 10, isAuthorityEnd (isSpecial scheme) (Char.ofNat (48 + d)) = false := by
    cases isSpecial scheme with
    | true => decide
    | false => decide
  have htake {x : List Char} (hx : IsNumber x) := hx.takeWhile_not_eq hdigit before after
  by_cases hany : before.any (isAuthorityEnd (isSpecial scheme)) = true
  · refine .inl fun x y url url' hx hy h h' => ?_
    unfold readHierarchy at h h'
    simp only [htake hx, htake hy, hany, if_true] at h h'
    exact effectivePort?_eq h h' rfl rfl
  · simp only [hany, Bool.false_eq_true, if_false] at htake
    have hdrop {x : List Char} (hx : IsNumber x) :
        (before ++ x ++ after).dropWhile (fun c => !isAuthorityEnd (isSpecial scheme) c) =
          after.dropWhile fun c => !isAuthorityEnd (isSpecial scheme) c := by
      have hsplit := List.takeWhile_append_dropWhile
        (p := fun c => !isAuthorityEnd (isSpecial scheme) c) (l := before ++ x ++ after)
      have hafter := List.takeWhile_append_dropWhile
        (p := fun c => !isAuthorityEnd (isSpecial scheme) c) (l := after)
      rw [htake hx, List.append_assoc] at hsplit
      exact List.append_cancel_left ((List.append_cancel_left hsplit).trans hafter.symm)
    have hread {x : List Char} (hx : IsNumber x) :
        readHierarchy scheme (before ++ x ++ after) = readAuthority scheme
          (after.dropWhile fun c => !isAuthorityEnd (isSpecial scheme) c).isEmpty
          (before ++ x ++ after.takeWhile fun c => !isAuthorityEnd (isSpecial scheme) c) := by
      unfold readHierarchy
      simp only [htake hx, hdrop hx]
    rcases authority_number scheme
      (after.dropWhile fun c => !isAuthorityEnd (isSpecial scheme) c).isEmpty before
      (after.takeWhile fun c => !isAuthorityEnd (isSpecial scheme) c) with
      hsame | ⟨slot, rfl, hlast, hslot⟩
    · refine .inl fun x y url url' hx hy h h' => ?_
      simp only [hread hx, hread hy] at h h'
      exact effectivePort?_eq h h' (hsame x y hx hy) rfl
    · refine .inr ⟨slot, rfl, fun x hx => ⟨?_, ?_⟩⟩
      · rw [hread hx, hlast, hslot]
      · rw [htake hx, hslot]

/-! ## A number in a text -/

/-- Of schemes without a default the port is that of what follows them. -/
theorem effectivePort?_of_rest {s s' scheme scheme' rest : List Char} {url url' : Url}
    (hsplit : splitScheme? (stripped s) = some (scheme, rest))
    (hsplit' : splitScheme? (stripped s') = some (scheme', rest))
    (hdefault : defaultPort? scheme = none) (hdefault' : defaultPort? scheme' = none)
    (hfile : scheme ≠ "file".toList) (hfile' : scheme' ≠ "file".toList)
    (h : parse s = .ok url) (h' : parse s' = .ok url') :
    url.effectivePort? = url'.effectivePort? := by
  have hspecial : isSpecial scheme = false := by
    rw [isSpecial, hdefault]
    rfl
  have hspecial' : isSpecial scheme' = false := by
    rw [isSpecial, hdefault']
    rfl
  by_cases hrest : ∃ r, rest = '/' :: '/' :: r
  · obtain ⟨r, hr⟩ := hrest
    rw [(parse_of_slashes hsplit hspecial hfile hr).1, readHierarchy, hspecial] at h
    rw [(parse_of_slashes hsplit' hspecial' hfile' hr).1, readHierarchy, hspecial'] at h'
    exact effectivePort?_eq h h' rfl (hdefault.trans hdefault'.symm)
  · have hnone : ∀ r, rest ≠ '/' :: '/' :: r := fun r hr => hrest ⟨r, hr⟩
    rw [parse_of_no_slashes hsplit hspecial hfile hnone] at h
    rw [parse_of_no_slashes hsplit' hspecial' hfile' hnone] at h'
    rw [← Except.ok.inj h, ← Except.ok.inj h']
    exact hdefault.trans hdefault'.symm

/-- A number does not begin with a slash. -/
theorem IsNumber.ne_slashes {x : List Char} (hx : IsNumber x) {before : List Char}
    (h : ∀ r, before ≠ '/' :: '/' :: r) (after r : List Char) :
    before ++ x ++ after ≠ '/' :: '/' :: r := by
  have hslash := hx.forall_mem (P := fun c => c ≠ '/') (by decide)
  obtain ⟨c, t, rfl⟩ := List.exists_cons_of_ne_nil hx.ne_nil
  have hc := hslash c List.mem_cons_self
  intro hr
  match before, h with
  | [], _ => exact hc (List.cons.inj hr).1
  | [_], _ => exact hc (List.cons.inj (List.cons.inj hr).2).1
  | a :: b :: rest, h =>
    obtain ⟨ha, hr⟩ := List.cons.inj hr
    exact h rest (by rw [ha, (List.cons.inj hr).1])

/-- Where all numbers stand in a hierarchy, they stand in its port, or make no difference to that. -/
theorem parse_number_of_hierarchy (scheme b a : List Char) {before after : List Char}
    (h : ∀ x, IsNumber x → parse (before ++ x ++ after) = readHierarchy scheme (b ++ x ++ a) ∧
      authority? (before ++ x ++ after) =
        some ((b ++ x ++ a).takeWhile fun c => !isAuthorityEnd (isSpecial scheme) c)) :
    (SamePort fun x => parse (before ++ x ++ after)) ∨
      ∃ slot : PortSlot, ∀ x, IsNumber x →
        parse (before ++ x ++ after) = readAuthority slot.scheme slot.isLast (slot.authority x) ∧
        authority? (before ++ x ++ after) = some (slot.authority x) := by
  rcases readHierarchy_number scheme b a with hsame | ⟨slot, rfl, hslot⟩
  · refine .inl fun x y url url' hx hy hurl hurl' => ?_
    simp only [(h x hx).1, (h y hy).1] at hurl hurl'
    exact hsame x y url url' hx hy hurl hurl'
  · refine .inr ⟨slot, fun x hx => ⟨?_, ?_⟩⟩
    · rw [(h x hx).1, (hslot x hx).1]
    · rw [(h x hx).2, (hslot x hx).2]

/-- A number in a text stands in the port of the URL, or makes no difference to it. -/
theorem parse_number (before after : List Char) :
    (SamePort fun x => parse (before ++ x ++ after)) ∨
      ∃ slot : PortSlot, ∀ x, IsNumber x →
        parse (before ++ x ++ after) = readAuthority slot.scheme slot.isLast (slot.authority x) ∧
        authority? (before ++ x ++ after) = some (slot.authority x) := by
  obtain ⟨before', after', hstripped⟩ := stripped_number before after
  rcases splitScheme?_number before' after' with hnone | ⟨rest, hscheme⟩ | ⟨scheme, rest, hsplit⟩
  · refine .inl fun x y url url' hx hy h _ => ?_
    simp only [parse, hstripped x hx, hnone x hx] at h
    cases h
  · refine .inl fun x y url url' hx hy h h' => ?_
    obtain ⟨scheme, hdefault, hfile, hsplit⟩ := hscheme x hx
    obtain ⟨scheme', hdefault', hfile', hsplit'⟩ := hscheme y hy
    rw [← hstripped x hx] at hsplit
    rw [← hstripped y hy] at hsplit'
    exact effectivePort?_of_rest hsplit hsplit' hdefault hdefault' hfile hfile' h h'
  · have hsplit' {x : List Char} (hx : IsNumber x) :
        splitScheme? (stripped (before ++ x ++ after)) = some (scheme, rest ++ x ++ after') := by
      rw [hstripped x hx, hsplit x hx]
    by_cases hfile : scheme = "file".toList
    · have hnone {x : List Char} {url : Url} (hx : IsNumber x)
          (h : parse (before ++ x ++ after) = .ok url) : url.effectivePort? = none := by
        obtain ⟨r, hr⟩ := parse_scheme h
        cases (hsplit' hx).symm.trans hr
        exact effectivePort?_of_file h hfile
      exact .inl fun x y url url' hx hy h h' => (hnone hx h).trans (hnone hy h').symm
    · cases hspecial : isSpecial scheme with
      | true =>
        refine parse_number_of_hierarchy scheme (rest.dropWhile isSlash) after' fun x hx => ?_
        have hread := parse_of_special (hsplit' hx) hspecial
        rwa [hx.dropWhile_eq (by decide)] at hread
      | false =>
        by_cases hrest : ∃ r, rest = '/' :: '/' :: r
        · obtain ⟨r, rfl⟩ := hrest
          exact parse_number_of_hierarchy scheme r after' fun x hx =>
            parse_of_slashes (hsplit' hx) hspecial hfile rfl
        · have hnone {x : List Char} (hx : IsNumber x) :
              parse (before ++ x ++ after) = .ok ⟨scheme, [], [], none, none⟩ :=
            parse_of_no_slashes (hsplit' hx) hspecial hfile
              (hx.ne_slashes (fun r hr => hrest ⟨r, hr⟩) after')
          refine .inl fun x y url url' hx hy h h' => ?_
          rw [← Except.ok.inj ((hnone hx).symm.trans h), ← Except.ok.inj ((hnone hy).symm.trans h')]

/-! ## The number of the port -/

theorem isNumber_toDigits (n : Nat) : IsNumber (Nat.toDigits 10 n) :=
  ⟨Nat.toDigits_ne_nil, fun _ hc => Nat.isDigit_of_mem_toDigits (by decide) (by decide) hc⟩

namespace PortSlot

variable {slot : PortSlot}

theorem at_notMem_hostPort {x : List Char} (hx : IsNumber x) : '@' ∉ slot.hostPort x := by
  have hnumber := hx.forall_mem (P := fun c => c ≠ '@') (by decide)
  have hslot := slot.at_notMem
  simp only [hostPort, List.mem_append, List.mem_cons, not_or] at hslot ⊢
  exact ⟨hslot.1, by decide, ⟨hslot.2.1, fun h => hnumber _ h rfl⟩, hslot.2.2⟩

/-- What is read for the number of a port. -/
theorem takeWhile_eq {x : List Char} (hx : IsNumber x) :
    (slot.before ++ x ++ slot.after).takeWhile (· != '\\') =
      slot.before ++ x ++ slot.after.takeWhile (· != '\\') := by
  have hany : ¬ slot.before.any (· == '\\') = true := by
    rw [List.any_eq_true]
    rintro ⟨c, hc, hbackslash⟩
    rw [beq_iff_eq] at hbackslash
    exact slot.backslash_notMem (hbackslash ▸ hc)
  exact (hx.takeWhile_not_eq (p := (· == '\\')) (by decide) _ _).trans (if_neg hany)

theorem portText_authority {x : List Char} (hx : IsNumber x) :
    portText (slot.authority x) = slot.before ++ x ++ slot.after.takeWhile (· != '\\') := by
  rw [authority, portText_withUserInfo (at_notMem_hostPort hx), hostPort, slot.splitHost_eq,
    List.drop_one, List.tail_cons, takeWhile_eq hx]

/-- Nothing stands beside the number, as far as the port is read, but zeros before it. -/
structure IsExact (slot : PortSlot) : Prop where
  before_zeros : Text.number? 10 slot.before = some 0
  after_ended : slot.after.takeWhile (· != '\\') = []

/-- A number that is read as the port is all of it. -/
theorem isExact_of_port {url : Url} {port : UInt16} (hne : port ≠ 0)
    (hread : readAuthority slot.scheme slot.isLast
      (slot.authority (Nat.toDigits 10 port.toNat)) = .ok url)
    (hport : url.effectivePort? = some port) : slot.IsExact := by
  have hx := isNumber_toDigits port.toNat
  obtain ⟨n, hlt, hnumber, heq⟩ := readAuthority_port hread
  have hnonempty : portText (slot.authority (Nat.toDigits 10 port.toNat)) ≠ [] := by
    rw [portText_authority hx]
    exact List.append_ne_nil_of_left_ne_nil (List.append_ne_nil_of_right_ne_nil _ hx.ne_nil) _
  rw [hport, if_neg hnonempty] at heq
  have hn : n = port.toNat := by
    rw [Option.some.inj heq, UInt16.toNat_ofNat_of_lt' hlt]
  have hzero : port.toNat ≠ 0 := fun h => hne (UInt16.toNat_inj.mp h)
  rw [portText_authority hx, hn] at hnumber
  obtain ⟨hafter, hbefore⟩ := Text.number?_around (by decide) hzero
    (Text.number?_toDigits (by decide) (by decide) _) hnumber
  exact ⟨hbefore, hafter⟩

/-- A host stands before the number. -/
theorem readHost_ok {x : List Char} (hx : IsNumber x) {url : Url}
    (hread : readAuthority slot.scheme slot.isLast (slot.authority x) = .ok url) :
    ∃ host, readHost (isSpecial slot.scheme) slot.hostText = .ok (some host) ∧
      url = ⟨slot.scheme, (readUserInfo (slot.info.getD [])).1,
        (readUserInfo (slot.info.getD [])).2, some host, url.port⟩ := by
  have hsplit : splitHost false (slot.hostPort x) =
      (slot.hostText, ':' :: (slot.before ++ x ++ slot.after)) := slot.splitHost_eq _
  rw [authority, readAuthority_withUserInfo_eq (at_notMem_hostPort hx) hsplit] at hread
  cases hhost : readHost (isSpecial slot.scheme) slot.hostText with
  | error fault =>
    rw [hhost] at hread
    cases hread
  | ok host =>
    rw [hhost] at hread
    cases host with
    | none => cases hread
    | some host =>
      refine ⟨host, rfl, ?_⟩
      cases hport : readPort slot.scheme (slot.before ++ x ++ slot.after) with
      | error fault =>
        rw [hport] at hread
        cases hread
      | ok port =>
        rw [hport] at hread
        cases hread
        rfl

/-- Any other number in its place is read in the same way. -/
theorem IsExact.readAuthority_eq (h : slot.IsExact) {x : List Char} (hx : IsNumber x) {url : Url}
    (hread : readAuthority slot.scheme slot.isLast (slot.authority x) = .ok url) (port : UInt16) :
    readAuthority slot.scheme slot.isLast (slot.authority (Nat.toDigits 10 port.toNat)) =
      .ok { url with port := if defaultPort? slot.scheme = some port then none else some port } := by
  have hdigits := isNumber_toDigits port.toNat
  have htake : (slot.before ++ Nat.toDigits 10 port.toNat ++ slot.after).takeWhile (· != '\\') =
      slot.before ++ Nat.toDigits 10 port.toNat := by
    rw [takeWhile_eq hdigits, h.after_ended, List.append_nil]
  have hport : readPort slot.scheme (slot.before ++ Nat.toDigits 10 port.toNat ++ slot.after) =
      .ok (if defaultPort? slot.scheme = some port then none else some port) := by
    refine readPort_of_number ?_ ?_ _
    · rw [htake]
      exact List.append_ne_nil_of_right_ne_nil _ hdigits.ne_nil
    · rw [htake]
      refine Text.number?_append_iff.mpr ⟨0, _, h.before_zeros,
        Text.number?_toDigits (by decide) (by decide) _, ?_⟩
      rw [Nat.zero_mul, Nat.zero_add]
  obtain ⟨host, hhost, hurl⟩ := readHost_ok hx hread
  have hsplit : splitHost false (slot.hostPort (Nat.toDigits 10 port.toNat)) =
      (slot.hostText, ':' :: (slot.before ++ Nat.toDigits 10 port.toNat ++ slot.after)) :=
    slot.splitHost_eq _
  rw [hurl]
  exact readAuthority_withUserInfo (at_notMem_hostPort hdigits) hsplit hhost hport _

end PortSlot

/-- **Where two numbers are read as ports, any other is.**  It stands alone in its place, but for
zeros before it, and changes nothing else of the URL. -/
theorem parse_of_two_ports {before after : List Char} {a b : UInt16} {url url' : Url} (hne : a ≠ b)
    (hzero : a ≠ 0) (ha : parse (before ++ Nat.toDigits 10 a.toNat ++ after) = .ok url)
    (hporta : url.effectivePort? = some a)
    (hb : parse (before ++ Nat.toDigits 10 b.toNat ++ after) = .ok url')
    (hportb : url'.effectivePort? = some b) :
    ∃ slot : PortSlot, slot.IsExact ∧ slot.scheme = url.scheme ∧
      (∃ host, readHost (isSpecial slot.scheme) slot.hostText = .ok (some host)) ∧
      ∀ port : UInt16,
        authority? (before ++ Nat.toDigits 10 port.toNat ++ after) =
          some (slot.authority (Nat.toDigits 10 port.toNat)) ∧
        parse (before ++ Nat.toDigits 10 port.toNat ++ after) =
          .ok { url with port := if defaultPort? url.scheme = some port then none else some port } := by
  rcases parse_number before after with hsame | ⟨slot, hslot⟩
  · have := hsame _ _ url url' (isNumber_toDigits _) (isNumber_toDigits _) ha hb
    rw [hporta, hportb] at this
    exact absurd (Option.some.inj this) hne
  · have hread := (hslot _ (isNumber_toDigits a.toNat)).1.symm.trans ha
    have hexact := PortSlot.isExact_of_port hzero hread hporta
    have hscheme : slot.scheme = url.scheme := (readAuthority_parts hread).1.symm
    have hhost := PortSlot.readHost_ok (isNumber_toDigits _) hread
    refine ⟨slot, hexact, hscheme, hhost.imp fun _ h => h.1, fun port => ?_⟩
    obtain ⟨hparse, hauthority⟩ := hslot _ (isNumber_toDigits port.toNat)
    have heq := hexact.readAuthority_eq (isNumber_toDigits _) hread port
    rw [hscheme] at heq hparse
    exact ⟨hauthority, hparse.trans heq⟩

end ProxyRouting.Url
