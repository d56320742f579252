import ProxyRouting.Proofs.HostPattern.Glob
import ProxyRouting.Proofs.Url.Percent

/-!
# The spellings of a domain

The hosts below a domain are written with a dot in front of it or a star and a dot, the domain with
them as it is.  The first two agree on hosts without line feeds.  Whether a host ends in a domain can
be told from the bytes of both, and the byte before the domain is looked at only where there is one.

    .d     matches h ↔ h = x ++ "." ++ d
    d      matches h ↔ h = d or .d matches h
    *.d    matches h ↔ h = x ++ "." ++ d, no line feed in x
-/

namespace ProxyRouting.HostPattern

open Url.Percent (bytes bytes_nil bytes_cons bytes_append utf8EncodeChar_ne_nil
  notMem_utf8EncodeChar bytes_inj exists_of_bytes_eq_append)

/-! ## Ends of hosts -/

section

variable {α : Type} [BEq α] [LawfulBEq α]

theorem isPrefixOf?_eq_some_iff {s t rest : List α} :
    s.isPrefixOf? t = some rest ↔ t = s ++ rest := by
  induction s generalizing t with
  | nil => exact Option.some_inj
  | cons a s ih =>
    cases t with
    | nil => simp [List.isPrefixOf?]
    | cons b t =>
      rw [List.isPrefixOf?, List.cons_append, List.cons.injEq]
      by_cases hab : a = b
      · rw [if_pos (by rw [hab, beq_self_eq_true]), ih]
        exact (and_iff_right hab.symm).symm
      · rw [if_neg (by rwa [beq_iff_eq])]
        exact iff_of_false (fun h => nomatch h) fun h => hab h.1.symm

theorem isSuffixOf?_eq_some_iff {s t before : List α} :
    s.isSuffixOf? t = some before ↔ t = before ++ s := by
  rw [List.isSuffixOf?, Option.map_eq_some_iff]
  constructor
  · rintro ⟨rest, hrest, rfl⟩
    have := congrArg List.reverse (isPrefixOf?_eq_some_iff.mp hrest)
    rwa [List.reverse_reverse, List.reverse_append, List.reverse_reverse] at this
  · rintro rfl
    exact ⟨before.reverse, isPrefixOf?_eq_some_iff.mpr (List.reverse_append ..),
      List.reverse_reverse before⟩

end

theorem endsIn_iff {domain host : List Char} : endsIn domain host = true ↔
    ∃ before, host = before ++ domain ∧
      (domain.head? = some '.' ∨ before = [] ∨ before.getLast? = some '.') := by
  unfold endsIn
  cases hbefore : domain.isSuffixOf? host with
  | none =>
    refine iff_of_false (fun h => nomatch h) ?_
    rintro ⟨before, heq, -⟩
    rw [isSuffixOf?_eq_some_iff.mpr heq] at hbefore
    cases hbefore
  | some before =>
    obtain rfl := isSuffixOf?_eq_some_iff.mp hbefore
    simp only [Bool.or_eq_true, beq_iff_eq, List.isEmpty_iff, or_assoc, List.append_cancel_right_eq,
      exists_eq_left']

/-- Below a domain: the hosts that end in it with a dot before it. -/
theorem endsIn_dot_iff {domain host : List Char} :
    endsIn ('.' :: domain) host = true ↔ ∃ x, host = x ++ '.' :: domain := by
  rw [endsIn_iff]
  exact exists_congr fun x => and_iff_left (.inl rfl)

theorem endsIn_name_iff {domain host : List Char} (hdot : domain.head? ≠ some '.') :
    endsIn domain host = true ↔ host = domain ∨ endsIn ('.' :: domain) host = true := by
  rw [endsIn_dot_iff, endsIn_iff]
  constructor
  · rintro ⟨before, rfl, hhead | rfl | hlast⟩
    · exact absurd hhead hdot
    · exact .inl rfl
    · obtain ⟨x, rfl⟩ := List.getLast?_eq_some_iff.mp hlast
      exact .inr ⟨x, List.append_assoc ..⟩
  · rintro (rfl | ⟨x, rfl⟩)
    · exact ⟨[], rfl, .inr (.inl rfl)⟩
    · exact ⟨x ++ ['.'], List.append_cons .., .inr (.inr List.getLast?_concat)⟩

/-- What ends in a domain does so with any labels before it. -/
theorem endsIn_append {domain host : List Char} (h : endsIn domain host = true) (x : List Char) :
    endsIn domain (x ++ '.' :: host) = true := by
  rw [endsIn_iff] at h ⊢
  obtain ⟨before, rfl, hhead | rfl | hlast⟩ := h
  · exact ⟨x ++ '.' :: before, by simp, .inl hhead⟩
  · exact ⟨x ++ ['.'], by simp, .inr (.inr List.getLast?_concat)⟩
  · obtain ⟨front, rfl⟩ := List.getLast?_eq_some_iff.mp hlast
    exact ⟨x ++ '.' :: front ++ ['.'], by simp, .inr (.inr List.getLast?_concat)⟩

/-! ## Bytes -/

/-- The byte before a domain at the end of a host, by its index in the host; nothing if the index is
outside. -/
def byteBefore? (domain host : List UInt8) : Option UInt8 :=
  if domain.length + 1 ≤ host.length then host[host.length - domain.length - 1]? else none

/-- `endsIn` on bytes; nothing where it would look at a byte outside of the host. -/
def endsInBytes? (domain host : List UInt8) : Option Bool :=
  if domain.isSuffixOf host then
    if domain.head? = some 46 ∨ host.length = domain.length then some true
    else (byteBefore? domain host).map (· == 46)
  else some false

theorem byteBefore?_append {before : List UInt8} (h : before ≠ []) (domain : List UInt8) :
    byteBefore? domain (before ++ domain) = before.getLast? := by
  have hlen := List.length_pos_iff.mpr h
  unfold byteBefore?
  rw [List.length_append, if_pos (by omega), Nat.add_sub_cancel, List.getLast?_eq_getElem?]
  exact List.getElem?_append_left (by omega)

theorem mem_utf8EncodeChar_dot {c : Char} : 46 ∈ String.utf8EncodeChar c ↔ c = '.' := by
  constructor
  · intro h
    by_contra hc
    exact notMem_utf8EncodeChar (m := '.') (by decide) hc h
  · rintro rfl
    decide

theorem head?_bytes (s : List Char) : (bytes s).head? = some 46 ↔ s.head? = some '.' := by
  cases s with
  | nil => simp
  | cons c s =>
    have hhead : (bytes (c :: s)).head? = (String.utf8EncodeChar c).head? := by
      rw [bytes_cons, List.head?_append_of_ne_nil _ (utf8EncodeChar_ne_nil c)]
    rw [hhead, List.head?_cons, Option.some_inj]
    constructor
    · exact fun h => mem_utf8EncodeChar_dot.mp (List.mem_of_head? h)
    · rintro rfl
      decide

theorem getLast?_bytes (s : List Char) : (bytes s).getLast? = some 46 ↔ s.getLast? = some '.' := by
  rcases List.eq_nil_or_concat s with rfl | ⟨x, c, rfl⟩
  · simp
  · have hlast : (bytes (x ++ [c])).getLast? = (String.utf8EncodeChar c).getLast? := by
      rw [bytes_append, bytes_cons, bytes_nil, List.append_nil,
        List.getLast?_append_of_ne_nil _ (utf8EncodeChar_ne_nil c)]
    rw [List.concat_eq_append, hlast, List.getLast?_concat, Option.some_inj]
    constructor
    · exact fun h => mem_utf8EncodeChar_dot.mp (List.mem_of_getLast? h)
    · rintro rfl
      decide

theorem isSuffixOf_bytes_iff {domain host : List Char} :
    (bytes domain).isSuffixOf (bytes host) = true ↔ ∃ before, host = before ++ domain := by
  rw [List.isSuffixOf_iff_suffix]
  constructor
  · rintro ⟨before, hbefore⟩
    obtain ⟨x, hx, -⟩ := exists_of_bytes_eq_append hbefore.symm
    exact ⟨x, hx⟩
  · rintro ⟨x, rfl⟩
    exact ⟨bytes x, (bytes_append x domain).symm⟩

/-- **The index is within the host.**  On bytes the test gives an answer for all texts, and the same
as on characters. -/
theorem endsInBytes?_bytes (domain host : List Char) :
    endsInBytes? (bytes domain) (bytes host) = some (endsIn domain host) := by
  unfold endsInBytes?
  by_cases hsuffix : (bytes domain).isSuffixOf (bytes host) = true
  · obtain ⟨before, rfl⟩ := isSuffixOf_bytes_iff.mp hsuffix
    have hlen : (bytes before ++ bytes domain).length = (bytes domain).length ↔ before = [] := by
      rw [List.length_append, Nat.add_eq_right, List.length_eq_zero_iff, ← bytes_nil, bytes_inj]
    have hends : endsIn domain (before ++ domain) = true ↔
        (domain.head? = some '.' ∨ before = []) ∨ before.getLast? = some '.' := by
      simp only [endsIn_iff, List.append_cancel_right_eq, exists_eq_left', or_assoc]
    rw [if_pos hsuffix, bytes_append]
    simp only [head?_bytes, hlen]
    split
    · next h => rw [hends.mpr (.inl h)]
    · next h =>
      have hbefore : bytes before ≠ [] := fun hnil =>
        h (.inr (bytes_inj.mp (hnil.trans bytes_nil.symm)))
      obtain ⟨b, hb⟩ := Option.ne_none_iff_exists'.mp (mt List.getLast?_eq_none_iff.mp hbefore)
      rw [byteBefore?_append hbefore, hb, Option.map_some, Option.some_inj, Bool.eq_iff_iff,
        beq_iff_eq, hends, or_iff_right h, ← getLast?_bytes, hb, Option.some_inj]
  · rw [if_neg hsuffix, eq_comm, Option.some_inj, ← Bool.not_eq_true, endsIn_iff]
    rintro ⟨before, heq, -⟩
    exact hsuffix (isSuffixOf_bytes_iff.mpr ⟨before, heq⟩)

/-! ## Patterns -/

theorem globs_of_notMem {s : List Char} (h : '*' ∉ s) (text : List Char) :
    Globs s text ↔ text = s := by
  induction s generalizing text with
  | nil => exact Iff.rfl
  | cons c s ih =>
    rw [List.mem_cons, not_or] at h
    rw [Globs, if_neg (Ne.symm h.1)]
    constructor
    · rintro ⟨rest, rfl, hrest⟩
      rw [(ih h.2 rest).mp hrest]
    · rintro rfl
      exact ⟨s, rfl, (ih h.2 s).mpr rfl⟩

theorem globs_below_iff {s : List Char} (h : '*' ∉ s) (text : List Char) :
    Globs ('*' :: '.' :: s) text ↔ ∃ x, '\n' ∉ x ∧ text = x ++ '.' :: s := by
  have hdot (rest : List Char) : Globs ('.' :: s) rest ↔ rest = '.' :: s :=
    globs_of_notMem (by simpa using h) rest
  rw [Globs, if_pos rfl]
  constructor
  · rintro ⟨x, rest, rfl, hx, hrest⟩
    exact ⟨x, hx, by rw [(hdot rest).mp hrest]⟩
  · rintro ⟨x, hx, rfl⟩
    exact ⟨x, _, rfl, hx, (hdot _).mpr rfl⟩

theorem compile_of_plain {pattern : String} (hstar : '*' ∉ pattern.toList)
    (hplain : ∀ e : String, e ≠ "" → pattern ≠ "/" ++ e ++ "/") :
    compile pattern = .ok (.suffix pattern) := by
  unfold compile
  simp only [body?_eq_none hplain]
  rw [if_neg (by rwa [List.contains_iff_mem])]

/-- What starts with another character is not between slashes. -/
theorem ne_slashes {pattern : String} (h : pattern.toList.head? ≠ some '/') (e : String) :
    pattern ≠ "/" ++ e ++ "/" := by
  rintro rfl
  simp at h

theorem toList_below (d : String) : ("." ++ d).toList = '.' :: d.toList :=
  String.toList_append

theorem eq_below_iff {host x d : String} :
    host = x ++ "." ++ d ↔ host.toList = x.toList ++ '.' :: d.toList := by
  rw [← String.toList_inj, String.toList_append, String.toList_append, List.append_assoc]
  rfl

/-- A text that is put together from texts, as a list of characters. -/
theorem exists_below_iff {host d : String} {P : List Char → Prop} :
    (∃ x : String, P x.toList ∧ host = x ++ "." ++ d) ↔
      ∃ x, P x ∧ host.toList = x ++ '.' :: d.toList := by
  constructor
  · rintro ⟨x, hx, heq⟩
    exact ⟨x.toList, hx, eq_below_iff.mp heq⟩
  · rintro ⟨x, hx, heq⟩
    exact ⟨String.ofList x, by rwa [String.toList_ofList], eq_below_iff.mpr
      (by rwa [String.toList_ofList])⟩

section

variable {d : String}

theorem isMatch_below_iff (host : String) :
    (suffix ("." ++ d)).isMatch host = true ↔ ∃ x : String, host = x ++ "." ++ d := by
  show endsIn ("." ++ d).toList host.toList = true ↔ _
  rw [toList_below, endsIn_dot_iff]
  simpa only [true_and] using (exists_below_iff (P := fun _ => True)).symm

theorem isMatch_name_iff (hdot : d.toList.head? ≠ some '.') (host : String) :
    (suffix d).isMatch host = true ↔ host = d ∨ (suffix ("." ++ d)).isMatch host = true := by
  show endsIn d.toList host.toList = true ↔ _ ∨ endsIn ("." ++ d).toList host.toList = true
  rw [toList_below, endsIn_name_iff hdot, String.toList_inj]

theorem isMatch_star_iff (hstar : '*' ∉ d.toList) {p : HostPattern}
    (hp : compile ("*." ++ d) = .ok p) (host : String) :
    p.isMatch host = true ↔ ∃ x : String, '\n' ∉ x.toList ∧ host = x ++ "." ++ d := by
  have hlist : ("*." ++ d).toList = '*' :: '.' :: d.toList := String.toList_append
  have hbody : body? ("*." ++ d).toList = none :=
    body?_eq_none fun e _ => ne_slashes (by rw [hlist, List.head?_cons]; decide) e
  rw [isMatch_iff_globs hbody (by rw [hlist]; exact List.mem_cons_self) hp, hlist,
    globs_below_iff hstar, exists_below_iff (P := fun x => '\n' ∉ x)]

/-- A star is for all that a dot alone is for, but where it would have to be for a line feed. -/
theorem isMatch_star_eq (hstar : '*' ∉ d.toList) {p : HostPattern}
    (hp : compile ("*." ++ d) = .ok p) {host : String} (hhost : '\n' ∉ host.toList) :
    p.isMatch host = (suffix ("." ++ d)).isMatch host := by
  rw [Bool.eq_iff_iff, isMatch_star_iff hstar hp, isMatch_below_iff]
  constructor
  · rintro ⟨x, -, heq⟩
    exact ⟨x, heq⟩
  · rintro ⟨x, heq⟩
    rw [eq_below_iff] at heq
    exact ⟨x, fun hx => hhost (heq ▸ List.mem_append_left _ hx), eq_below_iff.mpr heq⟩

end

theorem isMatch_append {text host : String} (h : (suffix text).isMatch host = true) (x : String) :
    (suffix text).isMatch (x ++ "." ++ host) = true := by
  have hlist := eq_below_iff.mp (rfl : x ++ "." ++ host = x ++ "." ++ host)
  show endsIn text.toList (x ++ "." ++ host).toList = true
  rw [hlist]
  exact endsIn_append h x.toList

/-! ## Top theorem -/

/-- **The spellings of a domain agree.**  With a dot in front it is for the hosts below it, as it is
for those and for itself, and with a star and a dot for the hosts below it without a line feed before
it.  What a domain is for goes on for any labels before it, and the byte before a domain is never
looked for outside of the host. -/
theorem spellings_agree {d : String} (hstar : '*' ∉ d.toList) (hdot : d.toList.head? ≠ some '.')
    (hplain : ∀ e : String, e ≠ "" → d ≠ "/" ++ e ++ "/") :
    ∃ below name, compile ("." ++ d) = .ok below ∧ compile d = .ok name ∧
      (∀ host, below.isMatch host = true ↔ ∃ x : String, host = x ++ "." ++ d) ∧
      (∀ host, name.isMatch host = true ↔ host = d ∨ below.isMatch host = true) ∧
      (∀ p, compile ("*." ++ d) = .ok p → ∀ host,
        (p.isMatch host = true ↔ ∃ x : String, '\n' ∉ x.toList ∧ host = x ++ "." ++ d) ∧
        ('\n' ∉ host.toList → p.isMatch host = below.isMatch host)) ∧
      (∀ text host x, (suffix text).isMatch host = true →
        (suffix text).isMatch (x ++ "." ++ host) = true) ∧
      ∀ text host, endsInBytes? (bytes text.toList) (bytes host.toList) =
        some ((suffix text).isMatch host) := by
  have hbelow : compile ("." ++ d) = .ok (suffix ("." ++ d)) := by
    refine compile_of_plain ?_ fun e _ => ne_slashes ?_ e
    · rw [toList_below]
      simpa using hstar
    · rw [toList_below, List.head?_cons]
      decide
  exact ⟨_, _, hbelow, compile_of_plain hstar hplain, isMatch_below_iff, isMatch_name_iff hdot,
    fun p hp host => ⟨isMatch_star_iff hstar hp host, isMatch_star_eq hstar hp⟩,
    fun _ _ x h => isMatch_append h x, fun text host => endsInBytes?_bytes text.toList host.toList⟩

/-- A domain with a character of two bytes, and one before it that is not a dot. -/
theorem spellings_agree_twoBytes :
    '*' ∉ "über.de".toList ∧ "über.de".toList.head? ≠ some '.' ∧
      (∀ e : String, e ≠ "" → "über.de" ≠ "/" ++ e ++ "/") ∧
      ∃ below name, compile ("." ++ "über.de") = .ok below ∧ compile "über.de" = .ok name ∧
        below.isMatch "ß.über.de" = true ∧ name.isMatch "über.de" = true ∧
        name.isMatch "ßüber.de" = false ∧
        endsInBytes? (bytes "über.de".toList) (bytes "ßüber.de".toList) = some false := by
  have hplain : ∀ e : String, e ≠ "" → "über.de" ≠ "/" ++ e ++ "/" :=
    fun e _ => ne_slashes (by decide) e
  obtain ⟨below, name, hbelow, hname, hmatch, hself, -, -, hbytes⟩ :=
    spellings_agree (d := "über.de") (by decide) (by decide) hplain
  have hnot : (suffix "über.de").isMatch "ßüber.de" = false := by decide
  have hbytes := hbytes "über.de" "ßüber.de"
  rw [hnot] at hbytes
  rw [compile_of_plain (by decide) hplain] at hname
  cases hname
  exact ⟨by decide, by decide, hplain, below, _, hbelow, compile_of_plain (by decide) hplain,
    (hmatch _).mpr ⟨"ß", by decide⟩, (hself _).mpr (.inl rfl), hnot, hbytes⟩

end ProxyRouting.HostPattern
