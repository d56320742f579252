import ProxyRouting.Proofs.Destination.Authority
import ProxyRouting.Proofs.Destination.Uri
import ProxyRouting.Proofs.Routing

/-!
# The letter case of schemes

The reader of URLs takes the scheme in any letters and gives it in small ones, so of two texts that
differ in the letters of their schemes it accepts both or neither, and gives the same URL.  A text
that is no URL keeps the letters of its scheme, and its route is that of the scheme as it is written.

    Url.parse (s ++ "://" ++ rest) = Url.parse (lowered s ++ "://" ++ rest)
    Url.parse (s ++ "://" ++ rest) fails → ofUri (s ++ "://" ++ rest) = of s (hostAfterMark rest)
-/

namespace ProxyRouting

/-! ## Letters of a scheme -/

namespace Url

theorem isSchemeChar_toLower {c : Char} (h : isSchemeChar c = true) :
    isSchemeChar c.toLower = true ∧ c.toLower.toLower = c.toLower ∧
      (c.isAlpha = true → c.toLower.isAlpha = true) := by
  let P (c : Char) : Prop := isSchemeChar c = true → isSchemeChar c.toLower = true ∧
    c.toLower.toLower = c.toLower ∧ (c.isAlpha = true → c.toLower.isAlpha = true)
  have hlt : c.toNat < 0x80 := by
    have := (toNat_of_isSchemeChar h).2
    omega
  have hall : P c := Text.forall_ascii (P := P) (by decide +kernel) hlt
  exact hall h

end Url

namespace Destination

open Text (cutAt?)

/-- A scheme in letters of any case: a letter, then letters, digits and three marks. -/
structure IsScheme (s : List Char) : Prop where
  ne : s ≠ []
  first : ∀ c ∈ s.head?, c.isAlpha = true
  chars : ∀ c ∈ s, Url.isSchemeChar c = true

namespace IsScheme

variable {s : List Char} (h : IsScheme s)

include h

theorem lower : IsScheme (s.map Char.toLower) := by
  refine ⟨by simpa using h.ne, fun c hc => ?_, fun c hc => ?_⟩
  · rw [List.head?_map] at hc
    obtain ⟨d, hd, rfl⟩ := Option.map_eq_some_iff.mp hc
    exact (Url.isSchemeChar_toLower (h.chars d (List.mem_of_mem_head? hd))).2.2 (h.first d hd)
  · obtain ⟨d, hd, rfl⟩ := List.mem_map.mp hc
    exact (Url.isSchemeChar_toLower (h.chars d hd)).1

theorem map_toLower_twice : (s.map Char.toLower).map Char.toLower = s.map Char.toLower := by
  rw [List.map_map]
  exact List.map_congr_left fun c hc => (Url.isSchemeChar_toLower (h.chars c hc)).2.1

theorem colon_notMem : ':' ∉ s := fun hc => absurd (h.chars ':' hc) (by decide)

/-- The reader of URLs does not tell the letters apart. -/
theorem parse_lower (t : List Char) :
    Url.parse (s.map Char.toLower ++ ':' :: t) = Url.parse (s ++ ':' :: t) := by
  have hlower := h.lower
  have hsplit (rest : List Char) : Url.splitScheme? (s.map Char.toLower ++ ':' :: rest) =
      Url.splitScheme? (s ++ ':' :: rest) := by
    rw [Url.splitScheme?_colon hlower.chars hlower.ne hlower.first,
      Url.splitScheme?_colon h.chars h.ne h.first, h.map_toLower_twice]
  unfold Url.parse
  rw [Url.stripped_colon hlower.chars hlower.ne, Url.stripped_colon h.chars h.ne, hsplit]

theorem cutAt?_mark (rest : List Char) :
    cutAt? authorityMark (s ++ (authorityMark ++ rest)) = some (s, rest) := by
  rw [cutAt?_mark_append h.colon_notMem, Text.cutAt?_of_append rfl, Option.map_some,
    List.append_nil]

theorem hostAsWritten?_mark (rest : List Char) :
    hostAsWritten? (s ++ (authorityMark ++ rest)) =
      nonEmpty (writtenHost (upToDelimiter rest)) := by
  unfold hostAsWritten?
  rw [h.cutAt?_mark]
  rfl

end IsScheme

/-! ## Texts of a scheme, the mark and more -/

def uriOf (scheme rest : String) : String :=
  scheme ++ "://" ++ rest

/-- The scheme in small letters. -/
def lowered (scheme : String) : String :=
  String.ofList (scheme.toList.map Char.toLower)

/-- The host of what follows the mark, as it is written; it may be empty. -/
def hostAfterMark (rest : String) : String :=
  String.ofList (writtenHost (upToDelimiter rest.toList))

/-- Both are the same destination, or both are refused for want of a scheme or a host. -/
def Agree (a b : Except Error Destination) : Prop :=
  a = b ∨ (∃ scheme host, a = .error (.request scheme host)) ∧
    ∃ scheme host, b = .error (.request scheme host)

theorem toList_uriOf (scheme rest : String) :
    (uriOf scheme rest).toList = scheme.toList ++ (authorityMark ++ rest.toList) := by
  rw [uriOf, String.toList_append, String.toList_append, List.append_assoc]
  rfl

section
variable {scheme : String} (h : IsScheme scheme.toList) (rest : String)

include h

theorem IsScheme.lowered : IsScheme (lowered scheme).toList := by
  rw [Destination.lowered, String.toList_ofList]
  exact h.lower

theorem IsScheme.ne_empty : scheme ≠ "" := by
  rintro rfl
  exact h.ne rfl

theorem parse_uriOf_lowered :
    Url.parse (uriOf (lowered scheme) rest).toList = Url.parse (uriOf scheme rest).toList := by
  rw [toList_uriOf, toList_uriOf, lowered, String.toList_ofList]
  exact h.parse_lower _

/-- The host that is written does not depend on the scheme. -/
theorem hostOf_uriOf (url? : Option Url) : hostOf url? (uriOf scheme rest).toList =
    ((nonEmpty (writtenHost (upToDelimiter rest.toList))).or do
      nonEmpty (withoutBrackets (← (← url?).hostText?))).getD [] := by
  rw [hostOf, toList_uriOf, h.hostAsWritten?_mark]

theorem ofUri_uriOf_lowered {url : Url} (hurl : Url.parse (uriOf scheme rest).toList = .ok url) :
    ofUri (uriOf (lowered scheme) rest) = ofUri (uriOf scheme rest) := by
  rw [ofUri_eq hurl, ofUri_eq ((parse_uriOf_lowered h rest).trans hurl), hostOf_uriOf h,
    hostOf_uriOf h.lowered]

/-- What is no URL is taken as it is written. -/
theorem ofUri_uriOf_of_error {fault : Url.Fault}
    (hurl : Url.parse (uriOf scheme rest).toList = .error fault) :
    ofUri (uriOf scheme rest) = of scheme (hostAfterMark rest) := by
  have hscheme : schemeOf none (uriOf scheme rest).toList = scheme.toList := by
    rw [schemeOf, toList_uriOf, h.cutAt?_mark]
    rfl
  have hhost : hostOf none (uriOf scheme rest).toList = writtenHost (upToDelimiter rest.toList) := by
    rw [hostOf_uriOf h]
    show ((nonEmpty _).or none).getD [] = _
    rw [Option.or_none, nonEmpty_getD]
  unfold ofUri
  rw [hurl]
  show of (String.ofList (schemeOf none _)) (String.ofList (hostOf none _)) = _
  rw [hscheme, hhost, String.ofList_toList]
  rfl

theorem agree_of_iff (scheme' host : String) :
    Agree (of scheme host) (of scheme' host) ↔ scheme' = scheme ∨ host = "" := by
  constructor
  · rintro (heq | ⟨⟨s, w, herror⟩, -⟩)
    · by_cases hhost : host = ""
      · exact .inr hhost
      · have hd : of scheme host = .ok ⟨scheme, host, h.ne_empty, hhost⟩ :=
          of_eq_ok_iff.mpr ⟨rfl, rfl⟩
        exact .inl (of_eq_ok_iff.mp (heq.symm.trans hd)).1.symm
    · exact .inr ((of_eq_error_iff.mp herror).1.resolve_left h.ne_empty)
  · rintro (rfl | rfl)
    · exact .inl rfl
    · exact .inr ⟨⟨_, _, of_eq_error_iff.mpr ⟨.inr rfl, rfl⟩⟩,
        _, _, of_eq_error_iff.mpr ⟨.inr rfl, rfl⟩⟩

end

theorem answer_selectUri_eq {uri uri' : String} (h : ofUri uri = ofUri uri') (r : Router) :
    r.answer (.selectUri uri) = r.answer (.selectUri uri') := by
  unfold Router.answer
  simp only [h]

theorem answer_selectUri_of {uri scheme host : String} (h : ofUri uri = of scheme host)
    (r : Router) : r.answer (.selectUri uri) = r.answer (.select scheme host) := by
  unfold Router.answer
  simp only [h]

/-! ## Top theorem -/

/-- **Where the letters of a scheme matter.**  Texts that differ in the letter case of their scheme
are the same URL, or both are none.  As a URL they have the same destination, and every router gives
them the same answer.  Otherwise each of them is routed by its scheme as it is written, so they agree
just where the scheme is in small letters or no host is written. -/
theorem selectUri_schemeCase {scheme : String} (h : IsScheme scheme.toList) (rest : String) :
    Url.parse (uriOf (lowered scheme) rest).toList = Url.parse (uriOf scheme rest).toList ∧
    ((∃ url, Url.parse (uriOf scheme rest).toList = .ok url) →
      ofUri (uriOf (lowered scheme) rest) = ofUri (uriOf scheme rest) ∧
      ∀ r : Router, r.answer (.selectUri (uriOf (lowered scheme) rest)) =
        r.answer (.selectUri (uriOf scheme rest))) ∧
    ((∃ fault, Url.parse (uriOf scheme rest).toList = .error fault) →
      ofUri (uriOf scheme rest) = of scheme (hostAfterMark rest) ∧
      ofUri (uriOf (lowered scheme) rest) = of (lowered scheme) (hostAfterMark rest) ∧
      ∀ r : Router, r.answer (.selectUri (uriOf scheme rest)) =
          r.answer (.select scheme (hostAfterMark rest)) ∧
        r.answer (.selectUri (uriOf (lowered scheme) rest)) =
          r.answer (.select (lowered scheme) (hostAfterMark rest))) ∧
    (Agree (ofUri (uriOf scheme rest)) (ofUri (uriOf (lowered scheme) rest)) ↔
      (∃ url, Url.parse (uriOf scheme rest).toList = .ok url) ∨ lowered scheme = scheme ∨
        hostAfterMark rest = "") := by
  have hlower := parse_uriOf_lowered h rest
  refine ⟨hlower, ?_, ?_, ?_⟩
  · rintro ⟨url, hurl⟩
    have hsame := ofUri_uriOf_lowered h rest hurl
    exact ⟨hsame, answer_selectUri_eq hsame⟩
  · rintro ⟨fault, hurl⟩
    have hwritten := ofUri_uriOf_of_error h rest hurl
    have hwritten' := ofUri_uriOf_of_error h.lowered rest (hlower.trans hurl)
    exact ⟨hwritten, hwritten', fun r =>
      ⟨answer_selectUri_of hwritten r, answer_selectUri_of hwritten' r⟩⟩
  · cases hurl : Url.parse (uriOf scheme rest).toList with
    | ok url =>
      rw [ofUri_uriOf_lowered h rest hurl]
      exact iff_of_true (.inl rfl) (.inl ⟨url, rfl⟩)
    | error fault =>
      rw [ofUri_uriOf_of_error h rest hurl,
        ofUri_uriOf_of_error h.lowered rest (hlower.trans hurl), agree_of_iff h]
      constructor
      · exact .inr
      · rintro (⟨url, hok⟩ | hagree)
        · cases hok
        · exact hagree

/-- A host with a blank in it makes the text no URL, and the proxy for `http` is not found by the
scheme in capital letters. -/
theorem selectUri_schemeCase_blank :
    IsScheme "HTTP".toList ∧
      ¬ Agree (ofUri (uriOf "HTTP" "bad host/")) (ofUri (uriOf (lowered "HTTP") "bad host/")) ∧
      let server := { ServerRecord.new "proxy" 3128 with forHosts := ["bad host"] }
      let router := Router.new [⟨defaultProtocols, .only [.suffix "bad host"],
        ⟨.http, "proxy", 3128⟩⟩]
      router.IsMadeOf [server] ∧
      (router.answer (.selectUri "HTTP://bad host/")).value = .ok (.target .direct) ∧
      (router.answer (.selectUri "http://bad host/")).value =
        .ok (.target (.http "proxy" 3128)) := by
  have hscheme : IsScheme "HTTP".toList := ⟨by decide, by simp, List.all_eq_true.mp (by decide)⟩
  have hlowered : lowered "HTTP" = "http" := by decide
  have hhost : hostAfterMark "bad host/" = "bad host" := by decide +kernel
  have hfault : Url.parse (uriOf "HTTP" "bad host/").toList = .error .domainName := by
    decide +kernel
  obtain ⟨-, -, hwritten, hagree⟩ := selectUri_schemeCase hscheme "bad host/"
  obtain ⟨-, -, hanswer⟩ := hwritten ⟨_, hfault⟩
  rw [hlowered, hhost] at hanswer
  refine ⟨hscheme, ?_, ?_⟩
  · rw [hagree, hlowered, hhost, hfault]
    rintro (⟨url, hok⟩ | hsame | hempty)
    · cases hok
    · exact absurd hsame (by decide)
    · exact absurd hempty (by decide)
  · intro server router
    refine ⟨⟨router, false, [], [], by decide, rfl⟩, ?_, ?_⟩
    · exact congrArg Answer.value (hanswer router).1
    · exact congrArg Answer.value (hanswer router).2

end Destination

end ProxyRouting
