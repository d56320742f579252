import ProxyRouting.Proofs.HostPattern.Glob
import ProxyRouting.Proofs.Routing.Append

/-!
# One list of patterns, for and against

A list of patterns is taken as a set, and a record for the hosts that it matches leaves just those to
a record for all others (`Divides`).  So of the two rules one applies to each request of their
protocols, and a router of both of them never goes direct there.

    Divides r r' P L a b → scheme ∈ P → a.applies scheme host = !b.applies scheme host
    L ⊆ L' → a.applies scheme host → a'.applies scheme host
-/

namespace ProxyRouting

namespace ServerRecord

/-- The record with these protocols, for the hosts that some pattern matches. -/
def only (r : ServerRecord) (protocols patterns : List String) : ServerRecord :=
  { r with forProtocols := protocols, forHosts := patterns, notForHosts := [] }

/-- The record with these protocols, for the hosts that no pattern matches. -/
def allBut (r : ServerRecord) (protocols patterns : List String) : ServerRecord :=
  { r with forProtocols := protocols, forHosts := [], notForHosts := patterns }

/-- The record says where its proxy is. -/
def HasPlace (r : ServerRecord) : Prop :=
  ¬ r.LacksHost ∧ ¬ r.LacksPort

variable {r r' : ServerRecord} {P P' L L' : List String}

theorem serves_only (hL : L ≠ []) (scheme host : String) : (r.only P L).Serves scheme host ↔
    scheme ∈ P ∧ ∃ text ∈ L, HostPattern.Covers text host := by
  simp [Serves, only, hL]

theorem serves_allBut (scheme host : String) : (r.allBut P L).Serves scheme host ↔
    scheme ∈ P ∧ ¬ ∃ text ∈ L, HostPattern.Covers text host := by
  simp [Serves, allBut]

theorem exists_compile (h : ¬ r.IsInvalid) : ∃ rule, r.compile = .ok rule := by
  cases hr : r.compile with
  | ok rule => exact ⟨rule, rfl⟩
  | error fault => exact absurd (isInvalid_iff.mpr ⟨fault, hr⟩) h

theorem exists_compile_only (hr : r.HasPlace) (P : List String) (hL : L ≠ [])
    (hpatterns : ∀ text ∈ L, HostPattern.IsPattern text) :
    ∃ rule, (r.only P L).compile = .ok rule := by
  apply exists_compile
  rintro (h | h | ⟨h, -⟩ | ⟨-, h⟩ | ⟨text, htext, h⟩)
  · exact hr.1 h
  · exact hr.2 h
  · exact hL h
  · exact h rfl
  · exact h (hpatterns text (by simpa [only] using htext))

theorem exists_compile_allBut (hr : r.HasPlace) (P : List String) (hL : L ≠ [])
    (hpatterns : ∀ text ∈ L, HostPattern.IsPattern text) :
    ∃ rule, (r.allBut P L).compile = .ok rule := by
  apply exists_compile
  rintro (h | h | ⟨-, h⟩ | ⟨h, -⟩ | ⟨text, htext, h⟩)
  · exact hr.1 h
  · exact hr.2 h
  · exact hL h
  · exact h rfl
  · exact h (hpatterns text (by simpa [allBut] using htext))

/-! ## Two rules of one list -/

/-- The rules are those of two records, one for the hosts of the list and one for all others. -/
def Divides (r r' : ServerRecord) (P L : List String) (a b : Rule) : Prop :=
  (r.only P L).compile = .ok a ∧ (r'.allBut P L).compile = .ok b

theorem exists_divides (hr : r.HasPlace) (hr' : r'.HasPlace) (P : List String) (hL : L ≠ [])
    (hpatterns : ∀ text ∈ L, HostPattern.IsPattern text) : ∃ a b, Divides r r' P L a b := by
  obtain ⟨a, ha⟩ := exists_compile_only hr P hL hpatterns
  obtain ⟨b, hb⟩ := exists_compile_allBut hr' P hL hpatterns
  exact ⟨a, b, ha, hb⟩

section
variable {a b a' b' : Rule}

theorem Divides.applies_only (h : Divides r r' P L a b) (hL : L ≠ []) (scheme host : String) :
    a.applies scheme host = true ↔ scheme ∈ P ∧ ∃ text ∈ L, HostPattern.Covers text host :=
  (applies_iff_serves h.1 scheme host).trans (serves_only hL scheme host)

theorem Divides.applies_allBut (h : Divides r r' P L a b) (scheme host : String) :
    b.applies scheme host = true ↔ scheme ∈ P ∧ ¬ ∃ text ∈ L, HostPattern.Covers text host :=
  (applies_iff_serves h.2 scheme host).trans (serves_allBut scheme host)

theorem Divides.complement (h : Divides r r' P L a b) (hL : L ≠ []) {scheme : String}
    (hscheme : scheme ∈ P) (host : String) : a.applies scheme host = !b.applies scheme host := by
  rw [Bool.eq_iff_iff, Bool.not_eq_true', ← Bool.not_eq_true, h.applies_only hL, h.applies_allBut]
  simp [hscheme]

theorem Divides.not_applies (h : Divides r r' P L a b) (hL : L ≠ []) {scheme : String}
    (hscheme : scheme ∉ P) (host : String) :
    a.applies scheme host = false ∧ b.applies scheme host = false := by
  rw [← Bool.not_eq_true, ← Bool.not_eq_true, h.applies_only hL, h.applies_allBut]
  exact ⟨fun hs => hscheme hs.1, fun hs => hscheme hs.1⟩

/-- With more patterns the one rule applies to more hosts and the other to fewer. -/
theorem Divides.mono (h : Divides r r' P L a b) (h' : Divides r r' P L' a' b') (hL : L ≠ [])
    (hsub : L ⊆ L') (scheme host : String) :
    (a.applies scheme host = true → a'.applies scheme host = true) ∧
      (b'.applies scheme host = true → b.applies scheme host = true) := by
  have hL' : L' ≠ [] := by
    rintro rfl
    exact hL (List.subset_nil.mp hsub)
  rw [h.applies_only hL, h'.applies_only hL', h.applies_allBut, h'.applies_allBut]
  constructor
  · rintro ⟨hs, text, htext, hcovers⟩
    exact ⟨hs, text, hsub htext, hcovers⟩
  · rintro ⟨hs, hnone⟩
    refine ⟨hs, ?_⟩
    rintro ⟨text, htext, hcovers⟩
    exact hnone ⟨text, hsub htext, hcovers⟩

/-- Neither the order nor the number of times that a pattern or a protocol stands there matters. -/
theorem Divides.applies_eq (h : Divides r r' P L a b) (h' : Divides r r' P' L' a' b') (hL : L ≠ [])
    (hP : ∀ s, s ∈ P' ↔ s ∈ P) (hsame : ∀ text, text ∈ L' ↔ text ∈ L) (scheme host : String) :
    a'.applies scheme host = a.applies scheme host ∧
      b'.applies scheme host = b.applies scheme host := by
  have hL' : L' ≠ [] := by
    rintro rfl
    exact hL (List.eq_nil_iff_forall_not_mem.mpr fun text htext =>
      List.not_mem_nil ((hsame text).mpr htext))
  constructor
  · rw [Bool.eq_iff_iff, h.applies_only hL, h'.applies_only hL']
    simp only [hP, hsame]
  · rw [Bool.eq_iff_iff, h.applies_allBut, h'.applies_allBut]
    simp only [hP, hsame]

theorem Divides.compileRules (h : Divides r r' P L a b) :
    (ProxyRouting.compileRules [r.only P L, r'.allBut P L]).1 = .ok [a, b] :=
  compileRules_ok_iff.mpr (.cons h.1 (.cons h.2 .nil))

/-- One of the two rules has the route. -/
theorem Divides.target_among (h : Divides r r' P L a b) (hL : L ≠ []) (d : Destination)
    (hscheme : d.scheme ∈ P) : (Route.among [a, b] d).target =
      .proxy (if a.applies d.scheme d.host then a.endpoint else b.endpoint) := by
  unfold Route.among
  rw [Route.amongFrom, Route.amongFrom]
  cases ha : a.applies d.scheme d.host with
  | true => rfl
  | false =>
    have hb : b.applies d.scheme d.host = true := by
      rw [h.complement hL hscheme, Bool.not_eq_false'] at ha
      exact ha
    rw [hb]
    rfl

theorem Divides.answer (h : Divides r r' P L a b) (hL : L ≠ []) {router : Router}
    (hrouter : router.IsMadeOf [r.only P L, r'.allBut P L]) {q : Request} {d : Destination}
    (hq : q.destination? = some d) (hscheme : d.scheme ∈ P) :
    (router.answer q).value.map Reply.target? =
      .ok (some (.proxy (if a.applies d.scheme d.host then a.endpoint else b.endpoint))) := by
  obtain ⟨rules, hrules, hanswer⟩ := hrouter.exists_rules
  obtain rfl := Except.ok.inj (hrules.symm.trans h.compileRules)
  obtain ⟨d', f, hd, hf, hreply⟩ | ⟨hnone, -⟩ := replyBy_cases q
  · obtain rfl := Option.some.inj (hd.symm.trans hq)
    rw [hanswer, hreply, ← h.target_among hL d' hscheme, ← hf]
    rfl
  · rw [hnone] at hq
    cases hq

end

end ServerRecord

/-! ## Top theorem -/

open ServerRecord (Divides)

/-- **Lists for and against are complements.**  From a list of patterns that is not empty, two
records that have a host and a port are compiled, one for its hosts and one for all others.  For
each of their protocols exactly one of the two rules applies to a host, and for other schemes
neither does.  The lists of protocols and patterns count as sets, and with more patterns the first
rule applies to the same hosts or more and the second to the same or fewer.  A router of the two
sends each request of their protocols through one of the proxies. -/
theorem only_allBut_complement {r r' : ServerRecord} {P L : List String} (hr : r.HasPlace)
    (hr' : r'.HasPlace) (hL : L ≠ []) (hpatterns : ∀ text ∈ L, HostPattern.IsPattern text) :
    ∃ a b, Divides r r' P L a b ∧
      (∀ scheme ∈ P, ∀ host, a.applies scheme host = !b.applies scheme host) ∧
      (∀ scheme ∉ P, ∀ host, a.applies scheme host = false ∧ b.applies scheme host = false) ∧
      (∀ P' L', (∀ s, s ∈ P' ↔ s ∈ P) → (∀ text, text ∈ L' ↔ text ∈ L) → ∃ a' b',
        Divides r r' P' L' a' b' ∧ ∀ scheme host,
          a'.applies scheme host = a.applies scheme host ∧
          b'.applies scheme host = b.applies scheme host) ∧
      (∀ L', L ⊆ L' → (∀ text ∈ L', HostPattern.IsPattern text) → ∃ a' b',
        Divides r r' P L' a' b' ∧ ∀ scheme host,
          (a.applies scheme host = true → a'.applies scheme host = true) ∧
          (b'.applies scheme host = true → b.applies scheme host = true)) ∧
      (compileRules [r.only P L, r'.allBut P L]).1 = .ok [a, b] ∧
      ∀ router : Router, router.IsMadeOf [r.only P L, r'.allBut P L] → ∀ q d,
        q.destination? = some d → d.scheme ∈ P → (router.answer q).value.map Reply.target? =
          .ok (some (.proxy (if a.applies d.scheme d.host then a.endpoint else b.endpoint))) := by
  obtain ⟨a, b, h⟩ := ServerRecord.exists_divides hr hr' P hL hpatterns
  refine ⟨a, b, h, fun scheme hs => h.complement hL hs, fun scheme hs => h.not_applies hL hs,
    fun P' L' hP hsame => ?_, fun L' hsub hpatterns' => ?_, h.compileRules,
    fun router hrouter q d => h.answer hL hrouter⟩
  · obtain ⟨text, htext⟩ := List.exists_mem_of_ne_nil L hL
    obtain ⟨a', b', h'⟩ := ServerRecord.exists_divides hr hr' P'
      (List.ne_nil_of_mem ((hsame text).mpr htext))
      fun text ht => hpatterns text ((hsame text).mp ht)
    exact ⟨a', b', h', h.applies_eq h' hL hP hsame⟩
  · obtain ⟨text, htext⟩ := List.exists_mem_of_ne_nil L hL
    obtain ⟨a', b', h'⟩ := ServerRecord.exists_divides hr hr' P
      (List.ne_nil_of_mem (hsub htext)) hpatterns'
    exact ⟨a', b', h', h.mono h' hL hsub⟩

/-- A list with a domain and a pattern with a star, and the same list with both of them twice. -/
theorem only_allBut_complement_two :
    let proxy := ServerRecord.new "proxy" 3128
    let other := ServerRecord.new "other" 3129
    proxy.HasPlace ∧ other.HasPlace ∧ (∀ text ∈ [".a", "b*"], HostPattern.IsPattern text) ∧
      ∃ a b a' b', Divides proxy other ["http", "ftp"] [".a", "b*"] a b ∧
        Divides proxy other ["ftp", "http", "ftp"] ["b*", "b*", ".a", ".a"] a' b' ∧
        a.applies "ftp" "x.a" = true ∧ b.applies "ftp" "x.a" = false ∧
        b'.applies "ftp" "x.a" = false ∧ b.applies "https" "c" = false ∧
        ∀ router : Router, router.IsMadeOf [proxy.only ["http", "ftp"] [".a", "b*"],
          other.allBut ["http", "ftp"] [".a", "b*"]] →
          (router.answer (.select "ftp" "x.a")).value.map Reply.target? =
            .ok (some (.proxy a.endpoint)) := by
  intro proxy other
  have hplace : proxy.HasPlace := by simp [proxy, ServerRecord.HasPlace, ServerRecord.LacksHost,
    ServerRecord.LacksPort, ServerRecord.new]
  have hplace' : other.HasPlace := by simp [other, ServerRecord.HasPlace, ServerRecord.LacksHost,
    ServerRecord.LacksPort, ServerRecord.new]
  have hdomain : HostPattern.compile ".a" = .ok (.suffix ".a") := by decide
  have hstarred : HostPattern.compile "b*" =
      .ok (.expression "b*" (Regex.betweenEnds (HostPattern.globRegex "b*".toList))) := by
    decide +kernel
  have hpatterns : ∀ text ∈ [".a", "b*"], HostPattern.IsPattern text := by
    intro text htext
    rcases List.mem_pair.mp htext with rfl | rfl
    · exact ⟨by decide, _, hdomain⟩
    · exact ⟨by decide, _, hstarred⟩
  have hcovers : HostPattern.Covers ".a" "x.a" := ⟨_, hdomain, by decide⟩
  obtain ⟨a, b, h, hcomplement, hother, hset, -, -, hanswer⟩ :=
    @only_allBut_complement proxy other ["http", "ftp"] _ hplace hplace' (by decide) hpatterns
  obtain ⟨a', b', h', hsame⟩ := hset ["ftp", "http", "ftp"] ["b*", "b*", ".a", ".a"]
    (by simp) (by simp [or_comm])
  have ha : a.applies "ftp" "x.a" = true :=
    (h.applies_only (by decide) "ftp" "x.a").mpr ⟨by decide, ".a", by decide, hcovers⟩
  have hb : b.applies "ftp" "x.a" = false := by
    rw [hcomplement "ftp" (by decide) "x.a", Bool.not_eq_true'] at ha
    exact ha
  refine ⟨hplace, hplace', hpatterns, a, b, a', b', h, h', ha, hb, (hsame _ _).2.trans hb,
    (hother "https" (by decide) "c").2, fun router hrouter => ?_⟩
  have hroute := hanswer router hrouter (.select "ftp" "x.a")
    ⟨"ftp", "x.a", by decide, by decide⟩ rfl (by decide)
  rwa [ha] at hroute

end ProxyRouting
