import Mathlib.Data.List.Forall2
import ProxyRouting.Rule.Compile

/-!
# What rules say of their records

`Serves` says in words of a record which requests it is for, `IsAt` where its proxy is.  Where
records compile, there is a rule for each of them, in their order, and it applies to just the
requests that the record serves:

    (compileRules records).1 = .ok rules → List.Forall₂ (r.compile = .ok rule) records rules
    r.compile = .ok rule → (rule.applies scheme host ↔ r.Serves scheme host) ∧ r.IsAt rule.endpoint
-/

namespace ProxyRouting

/-! ## Records in their own words -/

/-- The pattern that a text is compiled to matches the host. -/
def HostPattern.Covers (text host : String) : Prop :=
  ∃ p, HostPattern.compile text = .ok p ∧ p.isMatch host = true

namespace ServerRecord

/-- The record is for requests of the scheme to the host. -/
def Serves (r : ServerRecord) (scheme host : String) : Prop :=
  scheme ∈ r.forProtocols ∧
    ((r.forHosts ≠ [] ∧ ∃ p ∈ r.forHosts, HostPattern.Covers p host) ∨
      (r.forHosts = [] ∧ ∀ p ∈ r.notForHosts, ¬ HostPattern.Covers p host))

/-- The proxy of the record is the endpoint. -/
def IsAt (r : ServerRecord) (e : Endpoint) : Prop :=
  r.kind = e.kind ∧ r.host = some e.host ∧ r.port = some e.port

theorem IsAt.unique {r : ServerRecord} {e e' : Endpoint} (h : r.IsAt e) (h' : r.IsAt e') :
    e = e' := by
  obtain ⟨kind, host, port⟩ := e
  obtain ⟨kind', host', port'⟩ := e'
  obtain ⟨h1, h2, h3⟩ := h
  obtain ⟨h1', h2', h3'⟩ := h'
  rw [h1] at h1'
  rw [h2] at h2'
  rw [h3] at h3'
  cases h1'
  cases h2'
  cases h3'
  rfl

/-! ## One record -/

theorem compilePatterns_ok {list : PatternList} (texts : List String) :
    ∀ (index : Nat) (ps : List HostPattern), compilePatterns list index texts = .ok ps →
      List.Forall₂ (fun text p => HostPattern.compile text = .ok p) texts ps := by
  induction texts with
  | nil =>
    intro index ps h
    cases h
    exact .nil
  | cons text texts ih =>
    intro index ps h
    rw [compilePatterns] at h
    split at h
    · cases h
    · split at h
      · cases h
      · next p hp =>
        cases hrest : compilePatterns list (index + 1) texts with
        | error fault => rw [hrest] at h; cases h
        | ok rest =>
          rw [hrest] at h
          cases h
          exact .cons hp (ih _ _ hrest)

theorem any_isMatch_iff {texts : List String} {ps : List HostPattern} (host : String)
    (h : List.Forall₂ (fun text p => HostPattern.compile text = .ok p) texts ps) :
    ps.any (·.isMatch host) = true ↔ ∃ text ∈ texts, HostPattern.Covers text host := by
  induction h with
  | nil => simp
  | @cons text p texts ps hp _ ih =>
    have head : HostPattern.Covers text host ↔ p.isMatch host = true := by
      constructor
      · rintro ⟨p', hp', hm⟩
        rw [hp] at hp'
        cases hp'
        exact hm
      · exact fun hm => ⟨p, hp, hm⟩
    rw [List.any_cons, Bool.or_eq_true, ih, ← head]
    simp

/-- A record has one list of patterns, and the hosts of its rule are those that the list says. -/
theorem compileHosts_ok {r : ServerRecord} {hosts : HostScope} (h : r.compileHosts = .ok hosts) :
    (∃ ps, hosts = .only ps ∧ r.forHosts ≠ [] ∧ r.notForHosts = [] ∧
      List.Forall₂ (fun text p => HostPattern.compile text = .ok p) r.forHosts ps) ∨
    (∃ ps, hosts = .allBut ps ∧ r.forHosts = [] ∧ r.notForHosts ≠ [] ∧
      List.Forall₂ (fun text p => HostPattern.compile text = .ok p) r.notForHosts ps) := by
  unfold compileHosts at h
  cases hfor : r.forHosts with
  | nil =>
    cases hnot : r.notForHosts with
    | nil => rw [hfor, hnot] at h; cases h
    | cons text texts =>
      right
      rw [hfor, hnot] at h
      cases hps : compilePatterns .notForHosts 0 (text :: texts) with
      | error fault => simp [hps, bind, Except.bind] at h
      | ok ps =>
        simp only [hps, bind, Except.bind, pure, Except.pure, Except.ok.injEq] at h
        exact ⟨ps, h.symm, rfl, List.cons_ne_nil _ _, compilePatterns_ok _ _ _ hps⟩
  | cons text texts =>
    cases hnot : r.notForHosts with
    | cons other others => rw [hfor, hnot] at h; cases h
    | nil =>
      left
      rw [hfor, hnot] at h
      cases hps : compilePatterns .forHosts 0 (text :: texts) with
      | error fault => simp [hps, bind, Except.bind] at h
      | ok ps =>
        simp only [hps, bind, Except.bind, pure, Except.pure, Except.ok.injEq] at h
        exact ⟨ps, h.symm, List.cons_ne_nil _ _, rfl, compilePatterns_ok _ _ _ hps⟩

/-- All that compiling a record can give. -/
theorem compile_ok {r : ServerRecord} {rule : Rule} (h : r.compile = .ok rule) :
    rule.protocols = r.forProtocols ∧ r.compileHosts = .ok rule.hosts ∧ r.IsAt rule.endpoint ∧
      rule.endpoint.host ≠ "" ∧ rule.endpoint.port ≠ 0 := by
  unfold compile at h
  cases hhost : r.host with
  | none => rw [hhost] at h; cases h
  | some host =>
    rw [hhost] at h
    by_cases hne : host = ""
    · rw [hne] at h; cases h
    · cases hport : r.port with
      | none => simp [hne, hport, bind, Except.bind] at h
      | some port =>
        by_cases h0 : port = 0
        · simp [hne, hport, h0, bind, Except.bind] at h
        · cases hhosts : r.compileHosts with
          | error fault => simp [hne, hport, h0, hhosts, bind, Except.bind] at h
          | ok hosts =>
            simp only [hne, hport, h0, hhosts, bind, Except.bind, pure, Except.pure, if_false,
              Except.ok.injEq] at h
            subst h
            exact ⟨rfl, rfl, ⟨rfl, hhost, hport⟩, hne, h0⟩

/-- A rule applies to the requests that its record serves. -/
theorem applies_iff_serves {r : ServerRecord} {rule : Rule} (h : r.compile = .ok rule)
    (scheme host : String) : rule.applies scheme host = true ↔ r.Serves scheme host := by
  obtain ⟨hprotocols, hhosts, -⟩ := compile_ok h
  unfold Rule.applies Serves
  rw [Bool.and_eq_true, hprotocols, List.contains_iff_mem]
  refine and_congr_right fun _ => ?_
  obtain ⟨ps, hscope, hfor, -, hps⟩ | ⟨ps, hscope, hfor, -, hps⟩ := compileHosts_ok hhosts
  · rw [hscope]
    show ps.any _ = true ↔ _
    rw [any_isMatch_iff host hps]
    simp [hfor]
  · rw [hscope]
    show (!ps.any _) = true ↔ _
    rw [Bool.not_eq_true', ← Bool.not_eq_true, any_isMatch_iff host hps]
    simp [hfor]

end ServerRecord

/-! ## All records -/

theorem compileFrom_ok_iff (records : List ServerRecord) :
    ∀ (index : Nat) (rules : List Rule), (compileFrom index records).1 = .ok rules ↔
      List.Forall₂ (fun r rule => ServerRecord.compile r = .ok rule) records rules := by
  induction records with
  | nil =>
    intro index rules
    rw [List.forall₂_nil_left_iff]
    show Except.ok [] = Except.ok rules ↔ rules = []
    rw [Except.ok.injEq]
    exact eq_comm
  | cons r records ih =>
    intro index rules
    rw [compileFrom, List.forall₂_cons_left_iff]
    cases hr : r.compile with
    | error fault => simp
    | ok rule =>
      simp only [← ih (index + 1)]
      cases hrest : (compileFrom (index + 1) records).1 with
      | error e => simp [Except.map]
      | ok rest => simp [Except.map, eq_comm]

theorem compileRules_ok_iff {records : List ServerRecord} {rules : List Rule} :
    (compileRules records).1 = .ok rules ↔
      List.Forall₂ (fun r rule => ServerRecord.compile r = .ok rule) records rules :=
  compileFrom_ok_iff records 0 rules

end ProxyRouting
