import ProxyRouting.Proofs.HostPattern.Expression
import ProxyRouting.Proofs.Text.Cut

/-!
# Patterns with stars

A pattern with stars is turned into an expression: a star into anything but line feeds, and every
other character into itself, behind a backslash where it would mean something else.  What is read
from that expression is again one item for each character of the pattern, so that a host matches
just if it is the pieces of the pattern with something without line feeds for each star.

    compile p = .ok m → (m.isMatch h ↔ h = p₀ ++ x₁ ++ p₁ ++ … ++ xₙ ++ pₙ, no line feed in any xᵢ)
-/

namespace ProxyRouting.HostPattern

open Regex (isMeta)
open Text (splitOn_mark splitOn_cons splitAt_eq_splitOn)
open Unicode (CodeSet)

/-! ## The expression -/

/-- The expression for a character of the pattern. -/
def wild (c : Char) : List Char :=
  if c = '*' then ['.', '*'] else if isMeta c then ['\\', c] else [c]

theorem escaped_cons {c : Char} (hc : c ≠ '*') (s : List Char) :
    escaped (c :: s) = wild c ++ escaped s := by
  rw [wild, if_neg hc]
  rfl

theorem globbed_splitOn (s : List Char) : globbed (s.splitOn '*') = s.flatMap wild := by
  induction s with
  | nil => rfl
  | cons c s ih =>
    rw [List.flatMap_cons, ← ih]
    by_cases hc : c = '*'
    · rw [hc, splitOn_mark]
      cases hs : s.splitOn '*' with
      | nil => exact absurd hs (List.splitOnP_ne_nil _ s)
      | cons piece pieces => rfl
    · obtain ⟨piece, pieces, hs, hcons⟩ := splitOn_cons hc s
      rw [hcons, hs]
      cases pieces with
      | nil => exact escaped_cons hc piece
      | cons next pieces =>
        show escaped (c :: piece) ++ _ ++ _ = _ ++ (escaped piece ++ _ ++ _)
        rw [escaped_cons hc]
        simp only [List.append_assoc]

/-- No character of the pattern is read as a question mark after a repetition. -/
theorem flatMap_wild_ne (s more : List Char) : s.flatMap wild ≠ '?' :: more := by
  cases s with
  | nil => simp
  | cons c s =>
    rw [List.flatMap_cons]
    unfold wild
    split
    · intro h
      cases h
    · split
      · intro h
        cases h
      · next hmeta =>
        intro h
        cases h
        exact hmeta (by decide)

/-! ## What is read -/

/-- The item that is read for a character of the pattern. -/
def wildItem (c : Char) : Regex.Ast :=
  if c = '*' then .rep 0 none .dot else .literal (.verbatim c)

theorem isMeta_of_mem_operators {c : Char} (h : c ∈ Regex.Reader.operators) : isMeta c = true :=
  List.all_eq_true.mp (show Regex.Reader.operators.all isMeta = true from by decide) c h

section

variable {r : Regex.Reader}

theorem step_dot (hr : r.blanks = false) (s : List Char) : r.step '.' s = .ok (r.push .dot, s) := by
  rw [Regex.Reader.step_primitive _ _ (by decide), hr]
  rfl

theorem step_star_dot (s : List Char) (hs : ∀ more, s ≠ '?' :: more) :
    (r.push .dot).step '*' s = .ok (r.push (.rep 0 none .dot), s) := by
  rw [Regex.Reader.step_star, Regex.skipLazy_of_ne hs]
  rfl

theorem isDigit_of_isMeta {c : Char} (hc : isMeta c = true) : c.isDigit = false := by
  have hdigit := (List.all_eq_true (p := fun m => !m.isDigit)).mp (by decide) c
    (List.contains_iff_mem.mp hc)
  rwa [Bool.not_eq_true'] at hdigit

theorem step_escaped (hr : r.blanks = false) {c : Char} (hc : isMeta c = true) (s : List Char) :
    r.step '\\' (c :: s) = .ok (r.push (.literal (.verbatim c)), s) := by
  have hread : Regex.readEscape false (c :: s) = .ok (.literal (.verbatim c), s) := by
    show (if c.isDigit = true then _ else if Regex.isEscapable c = true then _ else _) = _
    rw [isDigit_of_isMeta hc, if_neg Bool.false_ne_true, Regex.isEscapable, hc]
    rfl
  rw [Regex.Reader.step_primitive _ _ (by decide), hr]
  show (Regex.readEscape false (c :: s) >>= _) = _
  rw [hread]
  rfl

theorem step_plain (hr : r.blanks = false) {c : Char} (hc : isMeta c = false) (s : List Char) :
    r.step c s = .ok (r.push (.literal (.verbatim c)), s) := by
  have hne {d : Char} (hd : isMeta d = true) : c ≠ d := by
    rintro rfl
    rw [hd] at hc
    cases hc
  have hop : c ∉ Regex.Reader.operators := fun hop => hne (isMeta_of_mem_operators hop) rfl
  have hread : Regex.readPrimitive false c s = .ok (.literal (.verbatim c), s) := by
    unfold Regex.readPrimitive
    split
    case h_5 => rfl
    all_goals exact absurd rfl (hne (by decide))
  rw [Regex.Reader.step_primitive _ _ hop, hr, hread]
  rfl

/-- A character of the pattern is read in no more steps than it is written with. -/
theorem run_wild (c : Char) {rest : List Char} (hrest : ∀ more, rest ≠ '?' :: more)
    (hr : r.blanks = false) {fuel : Nat} (hfuel : (wild c ++ rest).length ≤ fuel) :
    ∃ n, rest.length ≤ n ∧ r.run fuel (wild c ++ rest) = (r.push (wildItem c)).run n rest := by
  have hrun {r : Regex.Reader} (hr : r.blanks = false) (d : Char) (s : List Char) (n : Nat) :
      r.run (n + 1) (d :: s) = r.step d s >>= fun p => p.1.run n p.2 :=
    Regex.Reader.run_of_cons (by rw [hr]; rfl) n
  unfold wild wildItem at *
  split at hfuel
  · next hstar =>
    rw [if_pos hstar, if_pos hstar]
    obtain ⟨n, rfl⟩ : ∃ n, fuel = n + 2 := ⟨fuel - 2, by simp at hfuel; omega⟩
    refine ⟨n, by simpa using hfuel, ?_⟩
    show r.run (n + 1 + 1) ('.' :: '*' :: rest) = _
    rw [hrun hr, step_dot hr]
    show (r.push .dot).run (n + 1) ('*' :: rest) = _
    rw [hrun (r := r.push .dot) hr, step_star_dot rest hrest]
    rfl
  · next hstar =>
    rw [if_neg hstar, if_neg hstar]
    obtain ⟨n, rfl⟩ : ∃ n, fuel = n + 1 := ⟨fuel - 1, by split at hfuel <;> simp at hfuel <;> omega⟩
    split at hfuel
    · next hmeta =>
      rw [if_pos hmeta]
      refine ⟨n, by simp at hfuel; omega, ?_⟩
      show r.run (n + 1) ('\\' :: c :: rest) = _
      rw [hrun hr, step_escaped hr hmeta]
      rfl
    · next hmeta =>
      rw [if_neg hmeta]
      refine ⟨n, by simpa using hfuel, ?_⟩
      show r.run (n + 1) (c :: rest) = _
      rw [hrun hr, step_plain hr (by simpa using hmeta)]
      rfl

theorem run_flatMap_wild (s : List Char) :
    ∀ {r : Regex.Reader} {fuel : Nat}, r.blanks = false → (s.flatMap wild).length ≤ fuel →
      r.run fuel (s.flatMap wild) =
        .ok { r with level := ⟨r.level.branches, (s.map wildItem).reverse ++ r.level.items⟩ } := by
  induction s with
  | nil =>
    intro r fuel hr _
    refine Regex.Reader.run_of_blank ?_ fuel
    rw [hr]
    rfl
  | cons c s ih =>
    intro r fuel hr hfuel
    rw [List.flatMap_cons] at hfuel ⊢
    obtain ⟨n, hn, hrun⟩ := run_wild c (flatMap_wild_ne s) hr hfuel
    rw [hrun, ih (r := r.push (wildItem c)) hr hn, List.map_cons, List.reverse_cons,
      List.append_assoc]
    rfl

end

/-- The tree of a pattern. -/
def wildTree : List Char → Regex.Ast
  | [] => .empty
  | [c] => wildItem c
  | c :: s => .seq (wildItem c) (wildTree s)

theorem ofItems_append {items : List Regex.Ast} (h : items ≠ []) (first : Regex.Ast) :
    Regex.Ast.ofItems (items ++ [first]) = .seq first (Regex.Ast.ofItems items) := by
  cases items with
  | nil => exact absurd rfl h
  | cons last rest => simp [Regex.Ast.ofItems]

theorem ofItems_wildItem (s : List Char) :
    Regex.Ast.ofItems (s.map wildItem).reverse = wildTree s := by
  induction s with
  | nil => rfl
  | cons c s ih =>
    cases s with
    | nil => rfl
    | cons d s =>
      rw [List.map_cons, List.reverse_cons, ofItems_append (by simp), ih]
      rfl

theorem wildItem_depth (c : Char) : (wildItem c).depth ≤ 1 := by
  unfold wildItem
  split
  · exact Nat.le_refl 1
  · exact Nat.zero_le 1

theorem seq_depth_le (a b : Regex.Ast) : (Regex.Ast.seq a b).depth ≤ max a.depth b.depth + 1 := by
  cases b with
  | seq b b' =>
    show max (a.depth + 1) (Regex.Ast.seq b b').depth ≤ max a.depth (Regex.Ast.seq b b').depth + 1
    omega
  | _ => exact Nat.le_refl _

/-- However long it is, a sequence is one level of its own. -/
theorem wildTree_depth (s : List Char) : (wildTree s).depth ≤ 2 := by
  induction s with
  | nil => exact Nat.zero_le 2
  | cons c s ih =>
    have hc := wildItem_depth c
    match s with
    | [] => exact Nat.le_succ_of_le hc
    | [d] =>
      have hd := wildItem_depth d
      exact Nat.le_trans (seq_depth_le (wildItem c) (wildItem d)) (by omega)
    | d :: e :: s =>
      show max ((wildItem c).depth + 1) (wildTree (d :: e :: s)).depth ≤ 2
      omega

theorem read_globbed (s : List Char) :
    Regex.read (globbed (s.splitOn '*')) = .ok (wildTree s) := by
  rw [globbed_splitOn]
  have hlevel : Regex.Level.toAst ⟨[], (s.map wildItem).reverse ++ []⟩ = wildTree s := by
    rw [List.append_nil]
    exact ofItems_wildItem s
  have hdepth : (wildTree s).depth ≤ Regex.nestLimit :=
    Nat.le_trans (wildTree_depth s) (by decide)
  exact Regex.read_ok_iff.mpr ⟨_, run_flatMap_wild s rfl (Nat.le_refl _), rfl,
    hlevel.symm ▸ hdepth, hlevel⟩

/-! ## What it means -/

/-- What a star matches one character of. -/
def anyButLineFeed : CodeSet :=
  (CodeSet.ofCodes [0x0A]).complement

/-- What a character of the pattern matches. -/
def wildRegex (c : Char) : Regex :=
  if c = '*' then .rep 0 none (.set anyButLineFeed) else .char c

theorem wildItem_meaning (c : Char) :
    (wildItem c).meaning .initial = .ok (wildRegex c, .initial) := by
  unfold wildItem wildRegex
  split
  · rfl
  · rfl

/-- What a pattern matches. -/
def globRegex : List Char → Regex
  | [] => .empty
  | [c] => wildRegex c
  | c :: s => .seq (wildRegex c) (globRegex s)

theorem wildTree_meaning (s : List Char) :
    (wildTree s).meaning .initial = .ok (globRegex s, .initial) := by
  induction s with
  | nil => rfl
  | cons c s ih =>
    cases s with
    | nil => exact wildItem_meaning c
    | cons d s =>
      exact bind_ok_iff.mpr ⟨_, wildItem_meaning c, bind_ok_iff.mpr ⟨_, ih, rfl⟩⟩

theorem ofText_globbed (s : List Char) :
    Regex.ofText (globbed (s.splitOn '*')) = .ok (globRegex s) :=
  Regex.ofText_ok_iff.mpr ⟨_, _, read_globbed s, wildTree_meaning s⟩

/-! ## What it matches -/

/-- The text is the pattern with something without line feeds for each star. -/
def Globs : List Char → List Char → Prop
  | [], text => text = []
  | c :: s, text =>
    if c = '*' then ∃ x rest, text = x ++ rest ∧ '\n' ∉ x ∧ Globs s rest
    else ∃ rest, text = c :: rest ∧ Globs s rest

theorem matches_globRegex_cons (c : Char) (s text : List Char) (i j : Nat) :
    (globRegex (c :: s)).Matches text i j ↔
      ∃ k, (wildRegex c).Matches text i k ∧ (globRegex s).Matches text k j := by
  cases s with
  | nil =>
    constructor
    · exact fun h => ⟨j, h, rfl⟩
    · rintro ⟨k, h, rfl⟩
      exact h
  | cons d s => exact Iff.rfl

theorem anyButLineFeed_eq : anyButLineFeed = ⟨[(0, 9), (11, Unicode.lastCode)]⟩ := by
  decide +kernel

theorem anyButLineFeed_contains (c : Char) : anyButLineFeed.contains c.toNat = true ↔ c ≠ '\n' := by
  have hlast : c.toNat ≤ Unicode.lastCode := by
    have hvalid := c.valid
    unfold UInt32.isValidChar Nat.isValidChar at hvalid
    show c.val.toNat ≤ 0x10FFFF
    omega
  rw [anyButLineFeed_eq, Ne, ← Char.toNat_inj, show '\n'.toNat = 10 from rfl]
  simp only [CodeSet.contains, List.any_cons, List.any_nil, Bool.or_false, Bool.or_eq_true,
    Bool.and_eq_true, decide_eq_true_eq]
  omega

section

variable {text x rest : List Char} {i : Nat}

theorem drop_of_append (h : text.drop i = x ++ rest) : text.drop (i + x.length) = rest := by
  rw [← List.drop_drop, h, List.drop_left]

theorem getElem?_eq_some_iff_drop {c : Char} :
    text[i]? = some c ↔ text.drop i = c :: text.drop (i + 1) := by
  constructor
  · intro h
    obtain ⟨hi, rfl⟩ := List.getElem?_eq_some_iff.mp h
    exact List.drop_eq_getElem_cons hi
  · intro h
    rw [← List.head?_drop, h]
    rfl

end

theorem rounds_anyButLineFeed (text : List Char) (n : Nat) :
    ∀ i k, Regex.Rounds ((Regex.set anyButLineFeed).Matches text) n i k ↔
      ∃ x, x.length = n ∧ '\n' ∉ x ∧ k = i + n ∧ text.drop i = x ++ text.drop k := by
  induction n with
  | zero =>
    intro i k
    constructor
    · rintro rfl
      exact ⟨[], rfl, List.not_mem_nil, rfl, rfl⟩
    · rintro ⟨x, -, -, rfl, -⟩
      rfl
  | succ n ih =>
    intro i k
    constructor
    · rintro ⟨j, ⟨⟨c, hc, hset⟩, rfl⟩, hrounds⟩
      obtain ⟨x, hlen, hx, rfl, hdrop⟩ := (ih _ _).mp hrounds
      refine ⟨c :: x, by rw [List.length_cons, hlen], ?_, by omega, ?_⟩
      · rw [List.mem_cons, not_or]
        exact ⟨((anyButLineFeed_contains c).mp hset).symm, hx⟩
      · rw [getElem?_eq_some_iff_drop.mp hc, hdrop]
        rfl
    · rintro ⟨x, hlen, hx, rfl, hdrop⟩
      cases x with
      | nil => cases hlen
      | cons c x =>
        rw [List.mem_cons, not_or] at hx
        have hrest : text.drop (i + 1) = x ++ text.drop (i + (n + 1)) := drop_of_append (x := [c]) hdrop
        refine ⟨i + 1, ⟨⟨c, ?_, (anyButLineFeed_contains c).mpr (Ne.symm hx.1)⟩, rfl⟩,
          (ih _ _).mpr ⟨x, Nat.succ.inj hlen, hx.2, by omega, hrest⟩⟩
        rw [getElem?_eq_some_iff_drop, hrest]
        exact hdrop

theorem matches_star {text : List Char} {i k : Nat} :
    (wildRegex '*').Matches text i k ↔
      ∃ x, '\n' ∉ x ∧ k = i + x.length ∧ text.drop i = x ++ text.drop k := by
  constructor
  · rintro ⟨n, -, -, hrounds⟩
    obtain ⟨x, rfl, hx, hk, hdrop⟩ := (rounds_anyButLineFeed text n i k).mp hrounds
    exact ⟨x, hx, hk, hdrop⟩
  · rintro ⟨x, hx, hk, hdrop⟩
    exact ⟨x.length, Nat.zero_le _, fun _ h => (nomatch h),
      (rounds_anyButLineFeed text x.length i k).mpr ⟨x, rfl, hx, hk, hdrop⟩⟩

/-- An expression matches the rest of a text where the pattern is the rest of the text. -/
theorem matches_globRegex (s text : List Char) :
    ∀ i ≤ text.length, (globRegex s).Matches text i text.length ↔ Globs s (text.drop i) := by
  induction s with
  | nil =>
    intro i hi
    show i = text.length ↔ text.drop i = []
    rw [List.drop_eq_nil_iff]
    omega
  | cons c s ih =>
    intro i hi
    have hwithin := Regex.matches_staysWithin text
    rw [matches_globRegex_cons]
    by_cases hc : c = '*'
    · rw [hc, Globs, if_pos rfl]
      constructor
      · rintro ⟨k, hstar, hs⟩
        have hk := hwithin _ i k hi hstar
        obtain ⟨x, hx, -, hdrop⟩ := matches_star.mp hstar
        exact ⟨x, _, hdrop, hx, (ih k hk).mp hs⟩
      · rintro ⟨x, rest, hdrop, hx, hs⟩
        obtain rfl := drop_of_append hdrop
        have hstar := matches_star.mpr ⟨x, hx, rfl, hdrop⟩
        exact ⟨_, hstar, (ih _ (hwithin _ i _ hi hstar)).mpr hs⟩
    · rw [Globs, if_neg hc, wildRegex, if_neg hc]
      constructor
      · rintro ⟨k, hchar, hs⟩
        have hk := hwithin _ i k hi hchar
        obtain ⟨hget, rfl⟩ := hchar
        exact ⟨_, getElem?_eq_some_iff_drop.mp hget, (ih _ hk).mp hs⟩
      · rintro ⟨rest, hdrop, hs⟩
        have hrest : text.drop (i + 1) = rest := drop_of_append (x := [c]) hdrop
        rw [← hrest] at hdrop hs
        have hchar : (Regex.char c).Matches text i (i + 1) :=
          ⟨getElem?_eq_some_iff_drop.mpr hdrop, rfl⟩
        exact ⟨_, hchar, (ih _ (hwithin _ i _ hi hchar)).mpr hs⟩

/-! ## Patterns -/

theorem compile_of_star {pattern : String} {p : HostPattern} (hbody : body? pattern.toList = none)
    (hstar : '*' ∈ pattern.toList) (hp : compile pattern = .ok p) :
    ∃ outer, Regex.compile (anchored (globbed (pattern.toList.splitOn '*'))) = .ok outer ∧
      p = .expression pattern outer := by
  unfold compile at hp
  simp only [hbody, List.contains_iff_mem.mpr hstar, if_true, splitAt_eq_splitOn] at hp
  cases hcompile : Regex.compile (anchored (globbed (pattern.toList.splitOn '*'))) with
  | error fault =>
    simp only [hcompile] at hp
    cases hp
  | ok outer =>
    simp only [hcompile] at hp
    cases hp
    exact ⟨outer, rfl, rfl⟩

theorem isMatch_iff_globs {pattern : String} {p : HostPattern}
    (hbody : body? pattern.toList = none) (hstar : '*' ∈ pattern.toList)
    (hp : compile pattern = .ok p) (host : String) :
    p.isMatch host = true ↔ Globs pattern.toList host.toList := by
  obtain ⟨outer, houter, rfl⟩ := compile_of_star hbody hstar hp
  show outer.isMatch host.toList = true ↔ _
  rw [Regex.isMatch_anchored (ofText_globbed _) houter,
    matches_globRegex pattern.toList host.toList 0 (Nat.zero_le _), List.drop_zero]

theorem between?_eq_some {first last : Char} {s body : List Char}
    (h : Text.between? first last s = some body) : s = first :: (body ++ [last]) := by
  cases s with
  | nil => cases h
  | cons c rest =>
    rw [Text.between?] at h
    split at h
    · next hends =>
      rw [Bool.and_eq_true, beq_iff_eq, beq_iff_eq, List.getLast?_eq_some_iff] at hends
      obtain ⟨rfl, inside, rfl⟩ := hends
      cases h
      rw [List.dropLast_concat]
    · cases h

theorem body?_eq_none {pattern : String} (h : ∀ e : String, e ≠ "" → pattern ≠ "/" ++ e ++ "/") :
    body? pattern.toList = none := by
  cases hbody : body? pattern.toList with
  | none => rfl
  | some body =>
    obtain ⟨hbetween, hempty⟩ := Option.filter_eq_some_iff.mp hbody
    have htext : pattern = "/" ++ String.ofList body ++ "/" := by
      apply String.toList_inj.mp
      rw [between?_eq_some hbetween]
      simp
    refine absurd htext (h _ fun heq => ?_)
    obtain rfl : body = [] := String.ofList_eq_empty_iff.mp heq
    cases hempty

/-- The pieces with a gap after each but the last. -/
def interleave : List (List Char) → List (List Char) → List Char
  | piece :: pieces, gap :: gaps => piece ++ gap ++ interleave pieces gaps
  | piece :: _, [] => piece
  | [], _ => []

theorem interleave_cons (c : Char) (piece : List Char) (pieces gaps : List (List Char)) :
    interleave ((c :: piece) :: pieces) gaps = c :: interleave (piece :: pieces) gaps := by
  cases gaps with
  | nil => rfl
  | cons gap gaps => rfl

/-- A text is the pattern with a gap for each star. -/
theorem globs_iff_interleave (s : List Char) :
    ∀ text, Globs s text ↔ ∃ gaps, gaps.length = s.count '*' ∧ (∀ gap ∈ gaps, '\n' ∉ gap) ∧
      text = interleave (s.splitOn '*') gaps := by
  induction s with
  | nil =>
    intro text
    constructor
    · rintro rfl
      exact ⟨[], rfl, List.forall_mem_nil _, rfl⟩
    · rintro ⟨gaps, hlen, -, rfl⟩
      obtain rfl := List.length_eq_zero_iff.mp hlen
      rfl
  | cons c s ih =>
    intro text
    by_cases hc : c = '*'
    · rw [hc, Globs, if_pos rfl, splitOn_mark, List.count_cons_self]
      constructor
      · rintro ⟨x, rest, rfl, hx, hs⟩
        obtain ⟨gaps, hlen, hgaps, rfl⟩ := (ih rest).mp hs
        exact ⟨x :: gaps, by rw [List.length_cons, hlen], List.forall_mem_cons.mpr ⟨hx, hgaps⟩, rfl⟩
      · rintro ⟨gaps, hlen, hgaps, rfl⟩
        cases gaps with
        | nil => cases hlen
        | cons x gaps =>
          obtain ⟨hx, hgaps⟩ := List.forall_mem_cons.mp hgaps
          exact ⟨x, _, rfl, hx, (ih _).mpr ⟨gaps, Nat.succ.inj hlen, hgaps, rfl⟩⟩
    · obtain ⟨piece, pieces, hs, hcons⟩ := splitOn_cons hc s
      have hcount : (c :: s).count '*' = s.count '*' := List.count_cons_of_ne hc
      rw [Globs, if_neg hc, hcons, hcount]
      constructor
      · rintro ⟨rest, rfl, hglobs⟩
        obtain ⟨gaps, hlen, hgaps, rfl⟩ := (ih rest).mp hglobs
        exact ⟨gaps, hlen, hgaps, by rw [interleave_cons, hs]⟩
      · rintro ⟨gaps, hlen, hgaps, rfl⟩
        refine ⟨_, interleave_cons c piece pieces gaps, (ih _).mpr ⟨gaps, hlen, hgaps, ?_⟩⟩
        rw [hs]

/-- **Stars stand for anything but line feeds.**  A pattern with stars that is not between slashes
matches a host just if the host is the pieces of the pattern, as they are written, with a text
without line feeds for each star between them. -/
theorem isMatch_wildcard_iff {pattern : String} {p : HostPattern}
    (hplain : ∀ e : String, e ≠ "" → pattern ≠ "/" ++ e ++ "/") (hstar : '*' ∈ pattern.toList)
    (hp : compile pattern = .ok p) (host : String) :
    p.isMatch host = true ↔ ∃ gaps, gaps.length = pattern.toList.count '*' ∧
      (∀ gap ∈ gaps, '\n' ∉ gap) ∧
      host.toList = interleave (pattern.toList.splitOn '*') gaps := by
  rw [isMatch_iff_globs (body?_eq_none hplain) hstar hp, globs_iff_interleave]

/-- Two stars, and characters between them that mean something in expressions; a host that goes on
after the last piece is not matched. -/
theorem isMatch_wildcard_iff_dots :
    (∀ e : String, e ≠ "" → "*.[ä].*d" ≠ "/" ++ e ++ "/") ∧ '*' ∈ "*.[ä].*d".toList ∧
      ∃ p, compile "*.[ä].*d" = .ok p ∧
        (p.isMatch "www.[ä].d" = true ↔
          ∃ gaps, gaps.length = "*.[ä].*d".toList.count '*' ∧ (∀ gap ∈ gaps, '\n' ∉ gap) ∧
            "www.[ä].d".toList = interleave ("*.[ä].*d".toList.splitOn '*') gaps) ∧
        p.isMatch "www.[ä].d" = true ∧ p.isMatch "www.[ä].d.evil" = false := by
  have hplain : ∀ e : String, e ≠ "" → "*.[ä].*d" ≠ "/" ++ e ++ "/" := by
    intro e _ heq
    have hhead := congrArg (fun s => s.toList.head?) heq
    simp at hhead
  have hp : compile "*.[ä].*d" =
      .ok (.expression "*.[ä].*d" (Regex.betweenEnds (globRegex "*.[ä].*d".toList))) := by
    decide +kernel
  have hiff := isMatch_wildcard_iff hplain (by decide) hp "www.[ä].d"
  refine ⟨hplain, by decide, _, hp, hiff, hiff.mpr ⟨["www".toList, []], ?_⟩, by decide +kernel⟩
  exact ⟨by decide +kernel, by decide +kernel, by decide +kernel⟩

end ProxyRouting.HostPattern
