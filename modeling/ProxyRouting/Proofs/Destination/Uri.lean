import ProxyRouting.Proofs.Destination.Written
import ProxyRouting.Proofs.Url.Hierarchy

/-!
# The host that is routed and the host of the URL

The destination of a URI has the host that stands after the first `://`, wherever that is; the
reader of URLs looks for it after the scheme only, and knows of tabs, backslashes and the names of
this machine.  Where the URI is written in the ordinary way the two agree.

    Url.parse uri = .ok url →
      (RoutesAsParsed uri url ↔ what stands after the first mark reads as the host of url)
-/

namespace ProxyRouting

open Destination

/-! ## Agreement -/

/-- How the hosts of a scheme are read. -/
def Url.readsHost (scheme s : List Char) : Except Url.Fault Url.Host :=
  if Url.isSpecial scheme || scheme == "file".toList then Url.Host.parse s
  else Url.Host.parseOpaque s

namespace Destination

/-- A host as a URL has it: in brackets if it has a colon. -/
def bracketed (host : List Char) : List Char :=
  if ':' ∈ host then '[' :: host ++ [']'] else host

/-- The destination of a URI has the host of its URL, and there is none without a host. -/
def RoutesAsParsed (uri : String) (url : Url) : Prop :=
  match url.host with
  | some host => ∃ d, ofUri uri = .ok d ∧
      Url.readsHost url.scheme (bracketed d.host.toList) = .ok host
  | none => ∃ scheme host, ofUri uri = .error (.request scheme host)

/-- The text of a host is read as that host. -/
def ReadsBack (scheme : List Char) (host : Url.Host) : Prop :=
  withoutBrackets host.text ≠ [] ∧
    Url.readsHost scheme (bracketed (withoutBrackets host.text)) = .ok host

/-- A URI in which nothing is left to be stripped from the authority, no backslash could end it,
and the only brackets are those around the host. -/
structure Written.IsPlain (w : Written) : Prop where
  before : ∃ blanks scheme, w.before = blanks ++ scheme ∧
    (∀ c ∈ blanks, Url.isBlank c = true) ∧ ∀ c ∈ scheme, Url.isSchemeChar c = true
  authority : ∀ c ∈ w.authority, c ≠ '\\' ∧ Url.isDropped c = false
  brackets : '[' ∉ w.host ∧ ']' ∉ w.host
  last : w.tail = [] → ∀ c ∈ w.authority.getLast?, Url.isBlank c = false

/-- A URI in which no slash follows the scheme. -/
structure Rootless where
  blanks : List Char
  scheme : List Char
  path : List Char
  blanks_blank : ∀ c ∈ blanks, Url.isBlank c = true
  scheme_plain : ∀ c ∈ scheme, Url.isSchemeChar c = true
  path_rootless : ∀ c ∈ path.head?, c ≠ '/' ∧ Url.isBlank c = false

def Rootless.text (r : Rootless) : List Char :=
  r.blanks ++ (r.scheme ++ ':' :: r.path)

/-! ## Lemmas -/

variable {uri : String} {url : Url}

theorem ofUri_eq (h : Url.parse uri.toList = .ok url) :
    ofUri uri = of (String.ofList url.scheme) (String.ofList (hostOf (some url) uri.toList)) := by
  unfold ofUri
  rw [h]
  rfl

theorem ofList_eq_empty_iff {s : List Char} : String.ofList s = "" ↔ s = [] := by
  rw [← String.toList_inj, String.toList_ofList, String.toList_empty]

theorem nonEmpty_getD (s : List Char) : (nonEmpty s).getD [] = s := by
  cases s with
  | nil => rfl
  | cons c t => rfl

theorem nonEmpty_ne {s w : List Char} (h : nonEmpty s = some w) : w ≠ [] := by
  rintro rfl
  cases s with
  | nil => cases h
  | cons c t => cases h

theorem hostAsWritten?_ne {s w : List Char} (h : hostAsWritten? s = some w) : w ≠ [] := by
  obtain ⟨⟨before, rest⟩, -, hr⟩ := Option.bind_eq_some_iff.mp h
  exact nonEmpty_ne hr

/-- A URL with a host needs one that reads as it. -/
theorem routesAsParsed_of_host {host : Url.Host} (h : Url.parse uri.toList = .ok url)
    (hu : url.host = some host) :
    RoutesAsParsed uri url ↔ hostOf (some url) uri.toList ≠ [] ∧
      Url.readsHost url.scheme (bracketed (hostOf (some url) uri.toList)) = .ok host := by
  unfold RoutesAsParsed
  rw [hu, ofUri_eq h]
  constructor
  · rintro ⟨d, hd, hp⟩
    obtain ⟨-, hhost⟩ := of_eq_ok_iff.mp hd
    rw [hhost, String.toList_ofList] at hp
    refine ⟨fun hnil => d.host_ne ?_, hp⟩
    rw [hhost, hnil, String.ofList_nil]
  · rintro ⟨hne, hp⟩
    have hscheme := mt ofList_eq_empty_iff.mp (Url.parse_scheme_ne h)
    refine ⟨⟨_, _, hscheme, mt ofList_eq_empty_iff.mp hne⟩, of_eq_ok_iff.mpr ⟨rfl, rfl⟩, ?_⟩
    rwa [String.toList_ofList]

/-- A URL without a host needs that there is none. -/
theorem routesAsParsed_of_no_host (h : Url.parse uri.toList = .ok url) (hu : url.host = none) :
    RoutesAsParsed uri url ↔ hostOf (some url) uri.toList = [] := by
  unfold RoutesAsParsed
  rw [hu, ofUri_eq h]
  constructor
  · rintro ⟨scheme, host, he⟩
    obtain ⟨hnil | hnil, -⟩ := of_eq_error_iff.mp he
    · exact absurd (ofList_eq_empty_iff.mp hnil) (Url.parse_scheme_ne h)
    · exact ofList_eq_empty_iff.mp hnil
  · intro hnil
    exact ⟨_, _, of_eq_error_iff.mpr ⟨.inr (ofList_eq_empty_iff.mpr hnil), rfl⟩⟩

theorem routesAsParsed_of_written (h : Url.parse uri.toList = .ok url) {w : List Char}
    (hw : hostAsWritten? uri.toList = some w) :
    RoutesAsParsed uri url ↔ ∃ host, url.host = some host ∧
      Url.readsHost url.scheme (bracketed w) = .ok host := by
  have hhost : hostOf (some url) uri.toList = w := by simp [hostOf, hw]
  have hne := hostAsWritten?_ne hw
  cases hu : url.host with
  | none =>
    rw [routesAsParsed_of_no_host h hu, hhost]
    simp [hne]
  | some host =>
    rw [routesAsParsed_of_host h hu, hhost]
    simp [hne]

theorem routesAsParsed_of_none (h : Url.parse uri.toList = .ok url)
    (hw : hostAsWritten? uri.toList = none) :
    RoutesAsParsed uri url ↔ ∀ host, url.host = some host → ReadsBack url.scheme host := by
  cases hu : url.host with
  | none =>
    rw [routesAsParsed_of_no_host h hu]
    simp [hostOf, hw, Url.hostText?, hu]
  | some host =>
    have hhost : hostOf (some url) uri.toList = withoutBrackets host.text := by
      have : hostOf (some url) uri.toList = (nonEmpty (withoutBrackets host.text)).getD [] := by
        simp [hostOf, hw, Url.hostText?, hu]
      rw [this, nonEmpty_getD]
    rw [routesAsParsed_of_host h hu, hhost]
    simp [ReadsBack]

/-! ### URIs in the ordinary form -/

namespace Written

variable {w : Written}

theorem IsPlain.authority_ends (hw : w.IsPlain) :
    ∀ c ∈ w.authority, Url.isAuthorityEnd true c = false ∧ Url.isDropped c = false := by
  intro c hc
  obtain ⟨hslash, hdropped⟩ := hw.authority c hc
  have := w.authority_plain c hc
  simp only [isDelimiter] at this
  exact ⟨by simp [Url.isAuthorityEnd, this, hslash], hdropped⟩

theorem portText_head (w : Written) : ∀ c ∈ w.portText.head?, c = ':' := by
  intro c hc
  unfold portText at hc
  split at hc
  · cases hc
    rfl
  · cases hc

/-- The reader of URLs cuts the host off where it was put together with its port. -/
theorem IsPlain.splitHost (hw : w.IsPlain) :
    Url.splitHost false (withoutUserInfo w.authority) = (w.hostText, w.portText) := by
  rw [w.withoutUserInfo_authority]
  cases hb : w.inBrackets with
  | true =>
    have := Url.splitHost_brackets hw.brackets.2 w.portText_head
    simpa [hostText, hb] using this
  | false =>
    have hhost : w.hostText = w.host := by simp [hostText, hb]
    rw [hhost]
    refine Url.splitHost_append (fun c hc => ⟨?_, ?_⟩) w.portText_head
    · rintro rfl
      exact (w.host_bare hb).1 hc
    · rintro rfl
      exact hw.brackets.1 hc

/-- What is in brackets is an address, which has colons; nothing else has. -/
theorem bracketed_host (w : Written) {scheme : List Char} {host : Url.Host}
    (h : Url.readsHost scheme w.hostText = .ok host) : bracketed w.host = w.hostText := by
  unfold bracketed
  cases hb : w.inBrackets with
  | false =>
    rw [if_neg (w.host_bare hb).1]
    simp [hostText, hb]
  | true =>
    have hhost : w.hostText = '[' :: (w.host ++ [']']) := by simp [hostText, hb]
    have hparse : Url.Host.parseBracketed (w.host ++ [']']) = .ok host := by
      rw [hhost, Url.readsHost] at h
      split at h
      · exact h
      · exact h
    rw [if_pos (Url.Host.colon_mem_of_parseBracketed hparse), hhost]
    rfl

/-- The URL of a text in the ordinary form has the host that the text was given. -/
theorem IsPlain.host_of_parse (hw : w.IsPlain) (h : Url.parse w.text = .ok url) :
    (url.scheme ≠ "file".toList → ∃ host, url.host = some host ∧
      Url.readsHost url.scheme w.hostText = .ok host) ∧
    (url.scheme = "file".toList → ∀ host, url.host = some host →
      Url.readsHost url.scheme w.authority = .ok host) := by
  obtain ⟨blanks, scheme, hbefore, hblanks, hscheme⟩ := hw.before
  have hne : w.authority ≠ [] := by
    rw [Written.authority]
    intro hnil
    exact w.hostText_ne (List.append_eq_nil_iff.mp (List.append_eq_nil_iff.mp hnil).2).1
  have htail : ∀ c ∈ w.tail.head?, Url.isAuthorityEnd false c = true := by
    intro c hc
    have := w.tail_delimited c hc
    simpa [isDelimiter, Url.isAuthorityEnd] using this
  have htext : w.text =
      blanks ++ (scheme ++ ':' :: ('/' :: '/' :: w.authority ++ w.tail)) := by
    simp [text, hbefore, authorityMark]
  rw [htext] at h
  obtain ⟨hother, hfile⟩ :=
    Url.parse_hierarchy hblanks hscheme hw.authority_ends hne htail hw.last h
  refine ⟨fun hs => ?_, fun hs host hu => ?_⟩
  · have hread := hother hs
    rw [hw.splitHost] at hread
    obtain ⟨host, hu, hparse⟩ := Url.readHost_ok w.hostText_ne hread
    have hs' : (url.scheme == "file".toList) = false := by simpa using hs
    refine ⟨host, hu, ?_⟩
    rw [Url.readsHost, hs', Bool.or_false]
    exact hparse
  · have hs' : (url.scheme == "file".toList) = true := by simpa using hs
    rw [Url.readsHost, hs', Bool.or_true]
    exact hfile hs host hu

end Written

/-! ### URIs without an authority -/

/-- The first mark is in the path, if there is one. -/
theorem Rootless.hostAsWritten?_text (r : Rootless) :
    hostAsWritten? r.text = hostAsWritten? r.path := by
  have hblanks : ':' ∉ r.blanks := fun hc => absurd (r.blanks_blank _ hc) (by decide)
  have hscheme : ':' ∉ r.scheme := fun hc => absurd (r.scheme_plain _ hc) (by decide)
  have hmark : ¬ authorityMark <+: ':' :: r.path := by
    rintro ⟨rest, hrest⟩
    have hpath : r.path = '/' :: '/' :: rest := (List.cons.inj hrest).2.symm
    exact (r.path_rootless '/' (by rw [hpath]; rfl)).1 rfl
  unfold hostAsWritten? text
  rw [show authorityMark = ':' :: ['/', '/'] from rfl] at hmark ⊢
  rw [Text.cutAt?_append_of_not_mem hblanks, Text.cutAt?_append_of_not_mem hscheme,
    Text.cutAt?_cons hmark]
  cases Text.cutAt? [':', '/', '/'] r.path with
  | none => rfl
  | some r => rfl

theorem Rootless.host_none_of_parse (r : Rootless) (h : Url.parse r.text = .ok url)
    (hspecial : Url.isSpecial url.scheme = false) (hfile : url.scheme ≠ "file".toList) :
    url.host = none :=
  Url.parse_host_none r.blanks_blank r.scheme_plain r.path_rootless h hspecial hfile

theorem routesAsParsed_of_rootless (r : Rootless) (htext : r.text = uri.toList)
    (h : Url.parse uri.toList = .ok url) (hspecial : Url.isSpecial url.scheme = false)
    (hfile : url.scheme ≠ "file".toList) :
    RoutesAsParsed uri url ↔ hostAsWritten? r.path = none := by
  have hu : url.host = none := by
    rw [← htext] at h
    exact r.host_none_of_parse h hspecial hfile
  rw [← r.hostAsWritten?_text, htext]
  cases hw : hostAsWritten? uri.toList with
  | none => simp [routesAsParsed_of_none h hw, hu]
  | some w => simp [routesAsParsed_of_written h hw, hu]

/-! ## Top theorem -/

/-- **Where the host is that of the URL.** A host that is written after the first mark has to read
as the URL's, which then has one; where none is written, the text of the URL's host has to be read
back.  A URI in the ordinary form has its own host after the mark, so that only a file can fail,
whose host the reader of URLs may take for a name of this machine or a part of the path.  Where no
slash follows the scheme there is no host, and only a mark further on can make one. -/
theorem routesAsParsed_iff (h : Url.parse uri.toList = .ok url) :
    (∀ w, hostAsWritten? uri.toList = some w →
      (RoutesAsParsed uri url ↔ ∃ host, url.host = some host ∧
        Url.readsHost url.scheme (bracketed w) = .ok host)) ∧
    (hostAsWritten? uri.toList = none →
      (RoutesAsParsed uri url ↔ ∀ host, url.host = some host → ReadsBack url.scheme host)) ∧
    (∀ w : Written, w.IsPlain → w.text = uri.toList →
      (url.scheme = "file".toList → w.info = none ∧ w.port = none) →
      (RoutesAsParsed uri url ↔ (url.scheme = "file".toList → url.host ≠ none))) ∧
    ∀ r : Rootless, r.text = uri.toList → Url.isSpecial url.scheme = false →
      url.scheme ≠ "file".toList → (RoutesAsParsed uri url ↔ hostAsWritten? r.path = none) := by
  refine ⟨fun w hw => routesAsParsed_of_written h hw, routesAsParsed_of_none h,
    fun w hw htext hfile => ?_, fun r htext => routesAsParsed_of_rootless r htext h⟩
  have hwritten : hostAsWritten? uri.toList = some w.host := by
    rw [← htext]
    exact w.hostAsWritten?_text
  rw [routesAsParsed_of_written h hwritten]
  rw [← htext] at h
  obtain ⟨hother, hread⟩ := hw.host_of_parse h
  by_cases hs : url.scheme = "file".toList
  · obtain ⟨hinfo, hport⟩ := hfile hs
    have hauthority : w.authority = w.hostText := by
      simp [Written.authority, Written.infoText, Written.portText, hinfo, hport]
    cases hu : url.host with
    | none => simp [hs]
    | some host =>
      have := hread hs host hu
      rw [hauthority] at this
      rw [w.bracketed_host this]
      simp [this]
  · obtain ⟨host, hu, hparse⟩ := hother hs
    rw [w.bracketed_host hparse]
    exact ⟨fun _ hf => absurd hf hs, fun _ => ⟨host, hu, hparse⟩⟩

/-- A URL without an authority, whose query has the mark of another, and one in the ordinary
form. -/
theorem routesAsParsed_iff_mailto :
    ¬ RoutesAsParsed "mailto:x?u=http://evil" ⟨"mailto".toList, [], [], none, none⟩ ∧
      RoutesAsParsed "git://u@Host:80/x"
        ⟨"git".toList, "u".toList, [], some (.name "Host".toList), some 80⟩ := by
  constructor
  · let r : Rootless :=
      { blanks := [], scheme := "mailto".toList, path := "x?u=http://evil".toList
        blanks_blank := by simp
        scheme_plain := by simp [Url.isSchemeChar]
        path_rootless := by simp [Url.isBlank] }
    have hw : hostAsWritten? r.path = some "evil".toList := by decide +kernel
    rw [(routesAsParsed_iff (by decide +kernel)).2.2.2 r rfl rfl (by decide), hw]
    exact Option.some_ne_none _
  · let w : Written :=
      { before := "git".toList, info := some "u".toList, host := "Host".toList, inBrackets := false
        port := some "80".toList, tail := "/x".toList
        before_plain := by simp
        info_plain := by simp [isDelimiter]
        host_ne := by simp
        host_plain := by simp [isDelimiter]
        host_bare := by simp [Text.between?]
        port_digits := by simp
        tail_delimited := by simp [isDelimiter] }
    have hplain : w.IsPlain :=
      { before := ⟨[], "git".toList, rfl, by simp, by simp [Url.isSchemeChar]⟩
        authority := by
          simp [w, Written.authority, Written.infoText, Written.hostText, Written.portText,
            Url.isDropped]
        brackets := by simp [w]
        last := by simp [w] }
    refine ((routesAsParsed_iff (by decide +kernel)).2.2.1 w hplain rfl ?_).mpr ?_
    · simp
    · simp

end Destination

end ProxyRouting
