import ProxyRouting.Proofs.Regex.Group.Expression
import ProxyRouting.Proofs.Regex.InOrder

/-!
# Patterns between slashes

An expression with the anchors around it means the start of the text, what the expression means on
its own, and the end of the text; flags that are set in it are forgotten at the end of the group.
The anchors hold at one position each, so a search has one place to find a match at.  So a pattern
between slashes matches just the hosts that its expression matches as a whole.

    compile ("/" ++ e ++ "/") = .ok p → ∃ r, ofText e = .ok r ∧ (p.isMatch h ↔ r.Matches h 0 |h|)
-/

namespace ProxyRouting

namespace Regex

/-! ## Anchored expressions -/

/-- What the anchors make of an expression. -/
def betweenEnds (r : Regex) : Regex :=
  .seq (.look .startText) (.seq r (.look .endText))

theorem compile_ok_iff {s : List Char} {r : Regex} :
    compile s = .ok r ↔ ofText s = .ok r ∧ fits r = true := by
  unfold compile
  rw [bind_ok_iff]
  constructor
  · rintro ⟨r', hr, h⟩
    split at h
    · next hfits =>
      cases h
      exact ⟨hr, hfits⟩
    · cases h
  · rintro ⟨hr, hfits⟩
    exact ⟨r, hr, if_pos hfits⟩

theorem betweenAnchors_meaning {ast : Ast} {r : Regex} {flags : Flags}
    (h : ast.meaning .initial = .ok (r, flags)) :
    (betweenAnchors ast).meaning .initial = .ok (betweenEnds r, .initial) := by
  have hgroup : (Ast.group [] ast).meaning .initial = .ok (r, .initial) :=
    bind_ok_iff.mpr ⟨_, h, rfl⟩
  exact bind_ok_iff.mpr ⟨_, rfl, bind_ok_iff.mpr ⟨_, bind_ok_iff.mpr ⟨_, hgroup, rfl⟩, rfl⟩⟩

theorem ofText_anchored {body : List Char} {r outer : Regex} (hbody : ofText body = .ok r)
    (houter : ofText (HostPattern.anchored body) = .ok outer) : outer = betweenEnds r := by
  obtain ⟨ast, flags, hread, hmeaning⟩ := ofText_ok_iff.mp hbody
  obtain ⟨ast', flags', hread', hmeaning'⟩ := ofText_ok_iff.mp houter
  obtain rfl := read_anchored hread hread'
  rw [betweenAnchors_meaning hmeaning] at hmeaning'
  cases hmeaning'
  rfl

/-- The anchors leave one place for a match: from the start of the text to its end. -/
theorem matches_betweenEnds (r : Regex) {text : List Char} {i j : Nat} (hi : i ≤ text.length) :
    (betweenEnds r).Matches text i j ↔ i = 0 ∧ j = text.length ∧ r.Matches text i j := by
  constructor
  · rintro ⟨_, ⟨hstart, rfl⟩, k, hr, hend, rfl⟩
    have hzero : i = 0 := by
      by_contra hne
      have hbefore : (text[i - 1]? == none) = true := by
        simpa [Look.holds, neighbours, hne] using hstart
      rw [beq_iff_eq, List.getElem?_eq_none_iff] at hbefore
      omega
    have hlast : k = text.length := by
      have hafter : (text[k]? == none) = true := hend
      rw [beq_iff_eq, List.getElem?_eq_none_iff] at hafter
      exact Nat.le_antisymm (matches_staysWithin text r i k hi hr) hafter
    exact ⟨hzero, hlast, hr⟩
  · rintro ⟨rfl, rfl, hr⟩
    refine ⟨0, ⟨rfl, rfl⟩, text.length, hr, ?_, rfl⟩
    show (text[text.length]? == none) = true
    rw [List.getElem?_eq_none (Nat.le_refl _)]
    rfl

/-- A search for an expression between the ends of a text finds it where it matches the whole
text. -/
theorem isMatch_betweenEnds {r : Regex} (h : (betweenEnds r).InOrder) (text : List Char) :
    (betweenEnds r).isMatch text = true ↔ r.Matches text 0 text.length := by
  rw [isMatch_iff h]
  constructor
  · rintro ⟨i, j, hi, hmatch⟩
    obtain ⟨rfl, rfl, hr⟩ := (matches_betweenEnds r hi).mp hmatch
    exact hr
  · intro hr
    have hmatch := (matches_betweenEnds r (Nat.zero_le _)).mpr ⟨rfl, rfl, hr⟩
    exact ⟨0, text.length, Nat.zero_le _, hmatch⟩

/-- An anchored expression is found in a text where the expression on its own matches all of it. -/
theorem isMatch_anchored {body : List Char} {r outer : Regex} (hbody : ofText body = .ok r)
    (houter : compile (HostPattern.anchored body) = .ok outer) (text : List Char) :
    outer.isMatch text = true ↔ r.Matches text 0 text.length := by
  have hanchored := (compile_ok_iff.mp houter).1
  obtain rfl := ofText_anchored hbody hanchored
  exact isMatch_betweenEnds (ofText_inOrder hanchored) text

end Regex

namespace HostPattern

/-! ## Patterns -/

theorem body?_slashes {e : String} (he : e ≠ "") :
    body? ("/" ++ e ++ "/").toList = some e.toList := by
  have hbetween : Text.between? '/' '/' ('/' :: (e.toList ++ ['/'])) = some e.toList := by
    simp [Text.between?]
  have htext : ("/" ++ e ++ "/").toList = '/' :: (e.toList ++ ['/']) := by simp
  rw [body?, htext, hbetween, Option.filter_some, if_pos (by simpa using he)]

theorem compile_of_body {pattern : String} {body : List Char} {p : HostPattern}
    (hbody : body? pattern.toList = some body) (hp : compile pattern = .ok p) :
    ∃ inner outer, Regex.compile body = .ok inner ∧ Regex.compile (anchored body) = .ok outer ∧
      p = .expression pattern outer := by
  unfold compile at hp
  simp only [hbody] at hp
  cases hcompile : compileBody body with
  | error fault =>
    simp only [hcompile] at hp
    cases hp
  | ok outer =>
    simp only [hcompile] at hp
    cases hp
    obtain ⟨inner, hinner, houter⟩ := bind_ok_iff.mp hcompile
    exact ⟨inner, outer, hinner, houter, rfl⟩

/-- **Patterns between slashes test the whole host.**  The expression means something on its own,
and the pattern matches just the hosts that it matches from the first position to the last. -/
theorem isMatch_slashes_iff {e : String} {p : HostPattern} (he : e ≠ "")
    (hp : compile ("/" ++ e ++ "/") = .ok p) :
    ∃ r, Regex.ofText e.toList = .ok r ∧
      ∀ host : String, p.isMatch host = true ↔ r.Matches host.toList 0 host.toList.length := by
  obtain ⟨r, outer, hinner, houter, rfl⟩ := compile_of_body (body?_slashes he) hp
  have hr := (Regex.compile_ok_iff.mp hinner).1
  exact ⟨r, hr, fun host => Regex.isMatch_anchored hr houter host.toList⟩

/-- An alternation at the top, a flag that is set in it, and an anchor of its own: the expression is
found in a longer host, the pattern is not. -/
theorem isMatch_slashes_iff_alternation :
    "ab|(?m)c$" ≠ "" ∧
      ∃ p, compile ("/" ++ "ab|(?m)c$" ++ "/") = .ok p ∧
        ∃ r, Regex.ofText "ab|(?m)c$".toList = .ok r ∧
          (∀ host : String,
            p.isMatch host = true ↔ r.Matches host.toList 0 host.toList.length) ∧
          r.isMatch "abx".toList = true ∧ p.isMatch "abx" = false := by
  have hp : compile ("/" ++ "ab|(?m)c$" ++ "/") = .ok (.expression "/ab|(?m)c$/"
      (Regex.betweenEnds (.alt (.seq (.char 'a') (.char 'b'))
        (.seq .empty (.seq (.char 'c') (.look .endLine)))))) := by
    decide +kernel
  have hbody : Regex.ofText "ab|(?m)c$".toList = .ok (.alt (.seq (.char 'a') (.char 'b'))
      (.seq .empty (.seq (.char 'c') (.look .endLine)))) := by
    decide +kernel
  obtain ⟨r, hr, hmatch⟩ := isMatch_slashes_iff (by decide) hp
  cases hbody.symm.trans hr
  exact ⟨by decide, _, hp, _, hr, hmatch, by decide +kernel, by decide +kernel⟩

end HostPattern

end ProxyRouting
