import ProxyRouting.Endpoint
import ProxyRouting.Proofs.Credentials
import ProxyRouting.Proofs.Destination.Selection
import ProxyRouting.Proofs.HostPattern.Glob

/-!
# What the text of a target tells

The text of a proxy is a URI.  It tells the kind and the port, and the host as well, but for the
brackets that are put around one with colons: a host that has them already is shown as it is.  Read
as a URI, it gives the kind for its scheme and the host without brackets.

    a.text = b.text ↔ a.kind = b.kind ∧ a.port = b.port ∧
      (a.host = b.host ∨ IsShownAs a.host b.host ∨ IsShownAs b.host a.host)          (text_eq_iff)
    Destination.ofUri e.text = Destination.of e.kind.name e.host               (e.IsReadable)
-/

namespace ProxyRouting.Endpoint

/-- There are brackets around a host. -/
def IsEnclosed (host : String) : Prop :=
  ∃ inner, host = "[" ++ inner ++ "]"

/-- The second host is the first in brackets; the first has colons, and no brackets of its own. -/
structure IsShownAs (host shown : String) : Prop where
  eq : shown = "[" ++ host ++ "]"
  colon : ':' ∈ shown.toList
  bare : ¬ IsEnclosed host

/-- The host can be told from what stands around it in a URI. -/
structure IsReadable (e : Endpoint) : Prop where
  host_ne : e.host ≠ ""
  host_bare : ¬ IsEnclosed e.host
  host_plain : ∀ c ∈ e.host.toList, c ≠ '/' ∧ c ≠ '?' ∧ c ≠ '#' ∧ c ≠ '@'

/-- The host as it stands in the text. -/
def shownHost (e : Endpoint) : String :=
  if needsBrackets e.host.toList then "[" ++ e.host ++ "]" else e.host

theorem text_eq (e : Endpoint) : e.text = e.kind.name ++ "://" ++ hostPort e.shownHost e.port :=
  rfl

/-! ## Brackets -/

theorem isEnclosed_iff (host : String) :
    IsEnclosed host ↔ host.toList.head? = some '[' ∧ host.toList.getLast? = some ']' := by
  constructor
  · rintro ⟨inner, rfl⟩
    have htext : ("[" ++ inner ++ "]").toList = ('[' :: inner.toList) ++ [']'] := by simp
    rw [htext]
    exact ⟨rfl, List.getLast?_concat⟩
  · rintro ⟨hhead, hlast⟩
    obtain ⟨rest, hrest⟩ := List.head?_eq_some_iff.mp hhead
    obtain ⟨front, hfront⟩ := List.getLast?_eq_some_iff.mp hlast
    cases front with
    | nil =>
      rw [hrest] at hfront
      cases hfront
    | cons c inner =>
      rw [hrest] at hfront
      obtain ⟨rfl, rfl⟩ := List.cons.inj hfront
      refine ⟨String.ofList inner, String.toList_inj.mp ?_⟩
      rw [hrest]
      simp

theorem needsBrackets_iff (host : String) :
    needsBrackets host.toList = true ↔ ':' ∈ host.toList ∧ ¬ IsEnclosed host := by
  rw [isEnclosed_iff, needsBrackets, Bool.and_eq_true, Bool.not_eq_true', List.contains_iff_mem,
    Bool.and_eq_false_iff, beq_eq_false_iff_ne, beq_eq_false_iff_ne, not_and_or]

theorem isShownAs_iff {host shown : String} :
    IsShownAs host shown ↔ needsBrackets host.toList = true ∧ shown = "[" ++ host ++ "]" := by
  rw [needsBrackets_iff]
  constructor
  · rintro ⟨rfl, hcolon, hbare⟩
    exact ⟨⟨by simpa using hcolon, hbare⟩, rfl⟩
  · rintro ⟨⟨hcolon, hbare⟩, rfl⟩
    exact ⟨rfl, by simpa using hcolon, hbare⟩

/-- Brackets that are put around a host are not put around it again. -/
theorem IsShownAs.needsBrackets_eq {host shown : String} (h : IsShownAs host shown) :
    needsBrackets shown.toList = false := by
  rw [← Bool.not_eq_true, needsBrackets_iff, h.eq]
  exact fun hneeds => hneeds.2 ⟨host, rfl⟩

theorem shownHost_eq_iff (a b : Endpoint) :
    a.shownHost = b.shownHost ↔
      a.host = b.host ∨ IsShownAs a.host b.host ∨ IsShownAs b.host a.host := by
  unfold shownHost
  by_cases ha : needsBrackets a.host.toList = true
  · by_cases hb : needsBrackets b.host.toList = true
    · have hnota : ¬ IsShownAs b.host a.host := fun h => by simp [h.needsBrackets_eq] at ha
      have hnotb : ¬ IsShownAs a.host b.host := fun h => by simp [h.needsBrackets_eq] at hb
      simp [ha, hb, hnota, hnotb]
    · have hne : a.host ≠ b.host := fun h => hb (h ▸ ha)
      simp [ha, hb, hne, isShownAs_iff, eq_comm]
  · by_cases hb : needsBrackets b.host.toList = true
    · have hne : a.host ≠ b.host := fun h => ha (h ▸ hb)
      simp [ha, hb, hne, isShownAs_iff]
    · simp [ha, hb, isShownAs_iff]

/-! ## The text -/

theorem name_inj {a b : ProxyKind} (h : a.name = b.name) : a = b := by
  cases a <;> cases b <;> first | rfl | exact absurd h (by decide)

/-- The kind ends before the first colon. -/
theorem text_eq_iff (a b : Endpoint) :
    a.text = b.text ↔ a.kind = b.kind ∧ a.port = b.port ∧
      (a.host = b.host ∨ IsShownAs a.host b.host ∨ IsShownAs b.host a.host) := by
  have hcut (e : Endpoint) : Text.cut? ':' e.text.toList =
      some (e.kind.name.toList, '/' :: '/' :: (hostPort e.shownHost e.port).toList) := by
    have hname : ':' ∉ e.kind.name.toList := by cases e.kind <;> decide
    have htext : e.text.toList =
        e.kind.name.toList ++ ':' :: '/' :: '/' :: (hostPort e.shownHost e.port).toList := by
      simp [text_eq]
    rw [htext, Text.cut?_append hname]
  rw [← shownHost_eq_iff]
  constructor
  · intro h
    have hparts := (hcut a).symm.trans (h ▸ hcut b)
    simp only [Option.some.injEq, Prod.mk.injEq, List.cons.injEq, true_and,
      String.toList_inj] at hparts
    obtain ⟨hhost, hport⟩ := hostPort_inj hparts.2
    exact ⟨name_inj hparts.1, hport, hhost⟩
  · rintro ⟨hkind, hport, hhost⟩
    rw [text_eq, text_eq, hkind, hport, hhost]

/-- The last colon is the one before the port. -/
theorem cutLast?_address (e : Endpoint) :
    Text.cutLast? ':' e.address.toList =
      some (e.shownHost.toList, (toString e.port.toNat).toList) := by
  have haddress : e.address = hostPort e.shownHost e.port := rfl
  rw [haddress, hostPort_toList, Text.cutLast?_append (colon_notMem_digits _)]
  simp

/-! ## The text as a URI -/

theorem IsReadable.between?_eq_none {e : Endpoint} (h : e.IsReadable) :
    Text.between? '[' ']' e.host.toList = none := by
  by_contra hsome
  obtain ⟨inner, hinner⟩ := Option.ne_none_iff_exists'.mp hsome
  refine h.host_bare ⟨String.ofList inner, String.toList_inj.mp ?_⟩
  rw [HostPattern.between?_eq_some hinner]
  simp

/-- The parts of the text. -/
def IsReadable.written {e : Endpoint} (h : e.IsReadable) : Destination.Written where
  before := e.kind.name.toList
  info := none
  host := e.host.toList
  inBrackets := needsBrackets e.host.toList
  port := some (Nat.toDigits 10 e.port.toNat)
  tail := []
  before_plain := by cases e.kind <;> decide
  info_plain := by simp
  host_ne := fun hnil => h.host_ne (String.toList_eq_nil_iff.mp hnil)
  host_plain := by
    intro c hc
    obtain ⟨hslash, hquery, hfragment, hat⟩ := h.host_plain c hc
    exact ⟨by simp [Destination.isDelimiter, hslash, hquery, hfragment], hat⟩
  host_bare := by
    intro hnone
    refine ⟨fun hcolon => ?_, h.between?_eq_none⟩
    rw [(needsBrackets_iff e.host).mpr ⟨hcolon, h.host_bare⟩] at hnone
    cases hnone
  port_digits := by
    rintro digits hdigits c hc
    obtain rfl := Option.some.inj hdigits
    exact Nat.isDigit_of_mem_toDigits (by decide) (by decide) hc
  tail_delimited := by simp

theorem IsReadable.text_written {e : Endpoint} (h : e.IsReadable) :
    String.ofList h.written.text = e.text := by
  have hhost : h.written.hostText = e.shownHost.toList := by
    unfold Destination.Written.hostText shownHost written
    split <;> simp
  have hport : h.written.portText = ':' :: Nat.toDigits 10 e.port.toNat := rfl
  have hinfo : h.written.infoText = [] := rfl
  have htext : h.written.text = e.kind.name.toList ++ (Destination.authorityMark ++
      ((h.written.infoText ++ (h.written.hostText ++ h.written.portText)) ++ [])) := rfl
  apply String.toList_inj.mp
  rw [String.toList_ofList, htext, hinfo, hhost, hport, text_eq, String.toList_append,
    String.toList_append, hostPort_toList]
  simp [Destination.authorityMark]

theorem IsReadable.ofUri_text {e : Endpoint} (h : e.IsReadable) :
    Destination.ofUri e.text = Destination.of e.kind.name e.host := by
  have htoken : Destination.IsSchemeToken h.written.before := by
    show Destination.IsSchemeToken e.kind.name.toList
    cases e.kind
    · exact ⟨by decide, by simp [ProxyKind.name], by simp [ProxyKind.name]⟩
    · exact ⟨by decide, by simp [ProxyKind.name], by simp [ProxyKind.name]⟩
  rw [← h.text_written, h.written.ofUri_text htoken]
  simp [written]

/-! ## Top theorem -/

/-- **The text of a proxy tells what it is.**  Two proxies have one text only if kind and port are
the same, and the hosts too, but for the brackets around one with colons.  The text is a URI with
the kind as its scheme and that host, and the address ends in the port. -/
theorem target_text_tells (a : Endpoint) :
    (∀ b : Endpoint, (Target.proxy a).text = (Target.proxy b).text ↔
      a.kind = b.kind ∧ a.port = b.port ∧
        (a.host = b.host ∨ IsShownAs a.host b.host ∨ IsShownAs b.host a.host)) ∧
    (a.IsReadable → ∃ d, Destination.ofUri (Target.proxy a).text = .ok d ∧
      d.scheme = a.kind.name ∧ d.host = a.host) ∧
    ∃ address, (Target.proxy a).address? = some address ∧
      (Text.cutLast? ':' address.toList).map (fun r => String.ofList r.2) =
        some (toString a.port.toNat) := by
  refine ⟨a.text_eq_iff, fun h => ?_, a.address, rfl, ?_⟩
  · have hscheme : a.kind.name ≠ "" := by cases a.kind <;> decide
    exact ⟨⟨_, _, hscheme, h.host_ne⟩, h.ofUri_text.trans (Destination.of_eq_ok_iff.mpr ⟨rfl, rfl⟩),
      rfl, rfl⟩
  · rw [cutLast?_address, Option.map_some, String.ofList_toList]

/-- A host with a bracket in it and colons, which is read back, and the same host in brackets. -/
theorem target_text_tells_brackets :
    let a : Endpoint := ⟨.socks, "[::1", 1080⟩
    let b : Endpoint := ⟨.socks, "[[::1]", 1080⟩
    a.text = "socks://[[::1]:1080" ∧ b.text = a.text ∧
      ∃ d, Destination.ofUri a.text = .ok d ∧ d.scheme = "socks" ∧ d.host = "[::1" := by
  intro a b
  have hreadable : a.IsReadable := ⟨by decide, by rw [isEnclosed_iff]; decide, by simp [a]⟩
  obtain ⟨htext, hread, -⟩ := target_text_tells a
  have hbare : ¬ IsEnclosed a.host := hreadable.host_bare
  have hsame := (htext b).mpr ⟨rfl, rfl, .inr (.inl ⟨by decide, by decide, hbare⟩)⟩
  exact ⟨by decide +kernel, hsame.symm, hread hreadable⟩

end ProxyRouting.Endpoint
