import ProxyRouting.Proofs.Destination.Written
import ProxyRouting.Proofs.Url.Hierarchy
import ProxyRouting.Router

/-!
# What a written URI is routed by

The scheme of a URI and its host, in the letters that were written, are all that its route depends
on.  That is so whether or not the text is a URL: if it is one, its scheme is the one written, since
neither blanks nor line breaks can be stripped from before the colon; if it is none, the scheme is
what stands before the mark.

    ofUri w.text = scheme and host of w
    r.answer (.selectUri w.text) = r.answer (.select w.before w.host)          (selectUri_written)
-/

namespace ProxyRouting.Destination

/-- A scheme as it is written in small letters: a letter, then letters, digits and three marks. -/
structure IsSchemeToken (s : List Char) : Prop where
  ne : s ≠ []
  first : ∀ c ∈ s.head?, c.isLower = true
  rest : ∀ c ∈ s, c.isLower = true ∨ c.isDigit = true ∨ c ∈ ['+', '-', '.']

/-! ## Lemmas -/

namespace IsSchemeToken

variable {s : List Char}

theorem isSchemeChar (h : IsSchemeToken s) : ∀ c ∈ s, Url.isSchemeChar c = true := by
  intro c hc
  rcases h.rest c hc with hlower | hdigit | hmark
  · show ((c.isUpper || c.isLower || c.isDigit) || c == '+' || c == '-' || c == '.') = true
    rw [hlower, Bool.or_true]
    rfl
  · show ((c.isAlpha || c.isDigit) || c == '+' || c == '-' || c == '.') = true
    rw [hdigit, Bool.or_true]
    rfl
  · simp only [List.mem_cons, List.not_mem_nil, or_false] at hmark
    rcases hmark with rfl | rfl | rfl
    all_goals decide

theorem map_toLower (h : IsSchemeToken s) : s.map Char.toLower = s := by
  have hsame (c : Char) (hc : c ∈ s) : c.toLower = c := by
    have hupper : ¬ (c.val ≥ 'A'.val ∧ c.val ≤ 'Z'.val) := by
      rintro ⟨hfirst, hlast⟩
      rcases h.rest c hc with hlower | hdigit | hmark
      · have hletter : 'a'.val ≤ c.val := of_decide_eq_true (Bool.and_eq_true_iff.mp hlower).1
        exact absurd (UInt32.le_trans hletter hlast) (by decide)
      · have hnumber : c.val ≤ '9'.val := of_decide_eq_true (Bool.and_eq_true_iff.mp hdigit).2
        exact absurd (UInt32.le_trans hfirst hnumber) (by decide)
      · simp only [List.mem_cons, List.not_mem_nil, or_false] at hmark
        rcases hmark with rfl | rfl | rfl
        all_goals exact absurd hfirst (by decide)
    exact dif_neg hupper
  exact (List.map_congr_left hsame).trans (List.map_id' s)

theorem parse_scheme (h : IsSchemeToken s) {t : List Char} {url : Url}
    (hparse : Url.parse (s ++ ':' :: t) = .ok url) : url.scheme = s := by
  obtain ⟨rest, hsplit⟩ := Url.parse_scheme hparse
  rw [Url.stripped_colon h.isSchemeChar h.ne] at hsplit
  rw [(Url.splitScheme?_append h.isSchemeChar hsplit).1, h.map_toLower]

end IsSchemeToken

namespace Written

variable (w : Written)

theorem schemeOf_text (h : IsSchemeToken w.before) :
    schemeOf (Url.parse w.text).toOption w.text = w.before := by
  cases hparse : Url.parse w.text with
  | error fault =>
    show ((Text.cutAt? authorityMark w.text).map Prod.fst).getD [] = w.before
    rw [w.cutAt?_text]
    rfl
  | ok url => exact h.parse_scheme hparse

theorem hostOf_text (url? : Option Url) : hostOf url? w.text = w.host := by
  rw [hostOf, w.hostAsWritten?_text]
  rfl

theorem ofUri_text (h : IsSchemeToken w.before) :
    ofUri (String.ofList w.text) = of (String.ofList w.before) (String.ofList w.host) := by
  simp only [ofUri, String.toList_ofList, w.schemeOf_text h, w.hostOf_text]

end Written

/-! ## Top theorem -/

/-- **A URI is routed by its scheme and its host as they are written.**  Both come back from the
text, and every router answers for the text as it does for them, whatever user information, port
and tail there are. -/
theorem selectUri_written (w : Written) (h : IsSchemeToken w.before) :
    (∃ d, ofUri (String.ofList w.text) = .ok d ∧ d.scheme = String.ofList w.before ∧
      d.host = String.ofList w.host) ∧
    (∀ r : Router, r.answer (.selectUri (String.ofList w.text)) =
      r.answer (.select (String.ofList w.before) (String.ofList w.host))) ∧
    ∀ w' : Written, w'.before = w.before → w'.host = w.host → ∀ r : Router,
      r.answer (.selectUri (String.ofList w'.text)) =
        r.answer (.selectUri (String.ofList w.text)) := by
  have hanswer (v : Written) (hv : IsSchemeToken v.before) (r : Router) :
      r.answer (.selectUri (String.ofList v.text)) =
        r.answer (.select (String.ofList v.before) (String.ofList v.host)) := by
    simp only [Router.answer, v.ofUri_text hv]
  refine ⟨?_, hanswer w h, fun w' hbefore hhost r => ?_⟩
  · have hscheme : String.ofList w.before ≠ "" := by
      rw [Ne, String.ofList_eq_empty_iff]
      exact h.ne
    have hhost : String.ofList w.host ≠ "" := by
      rw [Ne, String.ofList_eq_empty_iff]
      exact w.host_ne
    exact ⟨⟨_, _, hscheme, hhost⟩, (w.ofUri_text h).trans (of_eq_ok_iff.mpr ⟨rfl, rfl⟩), rfl, rfl⟩
  · rw [hanswer w h, hanswer w' (hbefore ▸ h), hbefore, hhost]

/-- A host that is no ASCII, with user information that has marks of its own and a port that is too
large, and an address in brackets. -/
theorem selectUri_written_ports :
    ∃ w w' : Written,
      (w.text = "http://u:p@x@Bücher.de:99999/a".toList ∧
        w'.text = "git+ssh://[::1]?q".toList) ∧
      IsSchemeToken w.before ∧ IsSchemeToken w'.before ∧
      (∃ d, ofUri (String.ofList w.text) = .ok d ∧ d.scheme = String.ofList w.before ∧
        d.host = String.ofList w.host) ∧
      ∀ r : Router, r.answer (.selectUri (String.ofList w'.text)) =
        r.answer (.select (String.ofList w'.before) (String.ofList w'.host)) := by
  let w : Written :=
    { before := "http".toList, info := some "u:p@x".toList, host := "Bücher.de".toList
      inBrackets := false, port := some "99999".toList, tail := "/a".toList
      before_plain := by simp
      info_plain := by simp [isDelimiter]
      host_ne := by simp
      host_plain := by simp [isDelimiter]
      host_bare := by simp [Text.between?]
      port_digits := by simp
      tail_delimited := by simp [isDelimiter] }
  let w' : Written :=
    { before := "git+ssh".toList, info := none, host := "::1".toList, inBrackets := true
      port := none, tail := "?q".toList
      before_plain := by simp
      info_plain := by simp
      host_ne := by simp
      host_plain := by simp [isDelimiter]
      host_bare := by simp
      port_digits := by simp
      tail_delimited := by simp [isDelimiter] }
  have hw : IsSchemeToken w.before := ⟨by decide, by simp [w], by simp [w]⟩
  have hw' : IsSchemeToken w'.before := ⟨by decide, by simp [w'], by simp [w']⟩
  exact ⟨w, w', ⟨by decide, by decide⟩, hw, hw', (selectUri_written w hw).1,
    (selectUri_written w' hw').2.1⟩

end ProxyRouting.Destination
