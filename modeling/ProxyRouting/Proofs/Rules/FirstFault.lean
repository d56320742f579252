import ProxyRouting.Proofs.Regex.Step
import ProxyRouting.Proofs.Rules

/-!
# The first fault of records

A record is invalid if one of its checks fails; `FirstFault` says which check is the first that does,
by the field at fault and the kind of the fault.  Records are compiled in order, so the valid ones
before the first invalid one are told to the log, and no other.

    r.IsInvalid ↔ ∃ fault, r.compile = .error fault                          (isInvalid_iff)
    r.compile = .error fault → r.FirstFault fault.path fault.kind
    compileRules (done ++ r :: rest) = (.error (.record done.length fault), one event for each of done)
-/

namespace ProxyRouting

/-! ## Patterns -/

namespace HostPattern

/-- The text can stand in a list of patterns. -/
def IsPattern (text : String) : Prop :=
  text ≠ "" ∧ ∃ p, compile text = .ok p

/-- The pattern is what the text is compiled to, and keeps that text. -/
def IsReadAs (text : String) (p : HostPattern) : Prop :=
  compile text = .ok p ∧ p.source = text

theorem source_of_compile {text : String} {p : HostPattern} (h : compile text = .ok p) :
    p.source = text := by
  unfold compile at h
  dsimp only at h
  split at h
  · split at h
    · cases h
      rfl
    · cases h
  · split at h
    · split at h
      · cases h
        rfl
      · cases h
    · cases h
      rfl

end HostPattern

namespace HostScope

/-- The patterns of the hosts that the scope is for. -/
def positive : HostScope → List HostPattern
  | only ps => ps
  | allBut _ => []

/-- The patterns of the hosts that the scope is not for. -/
def negative : HostScope → List HostPattern
  | only _ => []
  | allBut ps => ps

theorem positiveCount_eq (s : HostScope) : s.positiveCount = s.positive.length := by
  cases s <;> rfl

theorem negativeCount_eq (s : HostScope) : s.negativeCount = s.negative.length := by
  cases s <;> rfl

end HostScope

namespace ServerRecord

/-! ## Faults of a record -/

def LacksHost (r : ServerRecord) : Prop :=
  r.host = none ∨ r.host = some ""

def LacksPort (r : ServerRecord) : Prop :=
  r.port = none ∨ r.port = some 0

/-- Some check of the record fails. -/
def IsInvalid (r : ServerRecord) : Prop :=
  r.LacksHost ∨ r.LacksPort ∨ (r.forHosts = [] ∧ r.notForHosts = []) ∨
    (r.forHosts ≠ [] ∧ r.notForHosts ≠ []) ∨
    ∃ text ∈ r.forHosts ++ r.notForHosts, ¬ HostPattern.IsPattern text

/-- The first text of a list that is no pattern: what stands before it are patterns, and their
number is its index. -/
inductive FirstBadText (list : PatternList) : List String → String → FaultKind → Prop
  | empty {before after : List String} (hbefore : ∀ text ∈ before, HostPattern.IsPattern text) :
      FirstBadText list (before ++ "" :: after)
        ("." ++ list.name ++ "[" ++ toString before.length ++ "]") .notEmpty
  | invalid {before after : List String} {text : String} {e : PatternError}
      (hbefore : ∀ text ∈ before, HostPattern.IsPattern text) (hne : text ≠ "")
      (he : HostPattern.compile text = .error e) :
      FirstBadText list (before ++ text :: after)
        ("." ++ list.name ++ "[" ++ toString before.length ++ "]") .invalidPattern

/-- The first check of the record that fails, by the field at fault, seen from the record, and the
kind of the fault. -/
inductive FirstFault (r : ServerRecord) : String → FaultKind → Prop
  | host (h : r.LacksHost) : FirstFault r ".host" .notEmpty
  | port (hhost : ¬ r.LacksHost) (h : r.LacksPort) : FirstFault r ".port" .notNull
  | noPatterns (hhost : ¬ r.LacksHost) (hport : ¬ r.LacksPort) (hfor : r.forHosts = [])
      (hnot : r.notForHosts = []) : FirstFault r "" .noMatcher
  | bothLists (hhost : ¬ r.LacksHost) (hport : ¬ r.LacksPort) (hfor : r.forHosts ≠ [])
      (hnot : r.notForHosts ≠ []) : FirstFault r "" .tooManyMatchers
  | forHosts {path : String} {kind : FaultKind} (hhost : ¬ r.LacksHost) (hport : ¬ r.LacksPort)
      (hnot : r.notForHosts = []) (h : FirstBadText .forHosts r.forHosts path kind) :
      FirstFault r path kind
  | notForHosts {path : String} {kind : FaultKind} (hhost : ¬ r.LacksHost)
      (hport : ¬ r.LacksPort) (hfor : r.forHosts = [])
      (h : FirstBadText .notForHosts r.notForHosts path kind) : FirstFault r path kind

/-- The rule says what the record says: where the proxy is, for which protocols, and the patterns
of each list in their order. -/
structure IsMadeInto (r : ServerRecord) (rule : Rule) : Prop where
  endpoint : r.IsAt rule.endpoint
  protocols : rule.protocols = r.forProtocols
  positive : List.Forall₂ HostPattern.IsReadAs r.forHosts rule.hosts.positive
  negative : List.Forall₂ HostPattern.IsReadAs r.notForHosts rule.hosts.negative

/-- What is told of the record with the given index when it is compiled. -/
def Tells (r : ServerRecord) (index : Nat) (event : Event) : Prop :=
  ∃ e, r.IsAt e ∧ event = .ruleCompiled index e r.forHosts.length r.notForHosts.length

/-! ## Lists of patterns -/

theorem FirstBadText.exists_mem {list : PatternList} {texts : List String} {path : String}
    {kind : FaultKind} (h : FirstBadText list texts path kind) :
    ∃ text ∈ texts, ¬ HostPattern.IsPattern text := by
  cases h with
  | empty => exact ⟨"", by simp, fun h => h.1 rfl⟩
  | @invalid _ _ text e _ hne he =>
    refine ⟨text, by simp, ?_⟩
    rintro ⟨-, p, hp⟩
    rw [he] at hp
    cases hp

/-- Its field has the index of a text that is empty or cannot be compiled. -/
theorem FirstBadText.exists_getElem? {list : PatternList} {texts : List String} {path : String}
    {kind : FaultKind} (h : FirstBadText list texts path kind) :
    ∃ (j : Nat) (text : String), texts[j]? = some text ∧
      path = "." ++ list.name ++ "[" ++ toString j ++ "]" ∧
      (text = "" ∨ kind = .invalidPattern ∧ ∃ e, HostPattern.compile text = .error e) := by
  cases h with
  | @empty before after _ => exact ⟨before.length, "", by simp, rfl, .inl rfl⟩
  | @invalid before after text e _ _ he =>
    exact ⟨before.length, text, by simp, rfl, .inr ⟨rfl, e, he⟩⟩

/-- The fault of a list is that of its first text that is no pattern; `before` are the patterns
already compiled. -/
theorem compilePatterns_error {list : PatternList} (texts : List String) :
    ∀ (before : List String) (fault : RecordFault),
      (∀ text ∈ before, HostPattern.IsPattern text) →
      compilePatterns list before.length texts = .error fault →
        FirstBadText list (before ++ texts) fault.path fault.kind := by
  induction texts with
  | nil =>
    intro before fault _ h
    cases h
  | cons text texts ih =>
    intro before fault hbefore h
    rw [compilePatterns] at h
    split at h
    · next hempty =>
      cases h
      rw [hempty]
      exact .empty hbefore
    · next hne =>
      split at h
      · next e he =>
        cases h
        exact .invalid hbefore hne he
      · next p hp =>
        cases hrest : compilePatterns list (before.length + 1) texts with
        | ok ps =>
          rw [hrest] at h
          cases h
        | error fault' =>
          rw [hrest] at h
          cases h
          have hbefore' : ∀ t ∈ before ++ [text], HostPattern.IsPattern t := by
            intro t ht
            rcases List.mem_append.mp ht with ht | ht
            · exact hbefore t ht
            · obtain rfl := List.mem_singleton.mp ht
              exact ⟨hne, p, hp⟩
          have := ih (before ++ [text]) fault hbefore' (by rwa [List.length_append])
          rwa [List.append_assoc, List.singleton_append] at this

/-- A list that compiles has patterns only. -/
theorem isPattern_of_compilePatterns {list : PatternList} {texts : List String} :
    ∀ {index : Nat} {ps : List HostPattern}, compilePatterns list index texts = .ok ps →
      ∀ text ∈ texts, HostPattern.IsPattern text := by
  induction texts with
  | nil =>
    intro index ps _ text htext
    cases htext
  | cons first texts ih =>
    intro index ps h
    rw [compilePatterns] at h
    split at h
    · cases h
    · next hne =>
      split at h
      · cases h
      · next p hp =>
        obtain ⟨rest, hrest, -⟩ := bind_ok_iff.mp h
        exact List.forall_mem_cons.mpr ⟨⟨hne, p, hp⟩, ih hrest⟩

/-- The hosts of a record are compiled from one list of patterns, or their fault is the first. -/
theorem compileHosts_error {r : ServerRecord} {fault : RecordFault} (hhost : ¬ r.LacksHost)
    (hport : ¬ r.LacksPort) (h : r.compileHosts = .error fault) :
    r.FirstFault fault.path fault.kind := by
  have hlist {list : PatternList} {texts : List String} {scope : List HostPattern → HostScope}
      (h : (compilePatterns list 0 texts >>= fun ps => .ok (scope ps)) = .error fault) :
      FirstBadText list texts fault.path fault.kind := by
    cases hps : compilePatterns list 0 texts with
    | ok ps =>
      rw [hps] at h
      cases h
    | error fault' =>
      rw [hps] at h
      cases h
      exact compilePatterns_error texts [] fault (by simp) hps
  unfold compileHosts at h
  split at h
  · next hfor hnot =>
    cases h
    exact .noPatterns hhost hport hfor hnot
  · next hfor hnot =>
    cases h
    exact .bothLists hhost hport (by simp [hfor]) (by simp [hnot])
  · next hnot _ => exact .forHosts hhost hport hnot (hlist h)
  · next hfor _ => exact .notForHosts hhost hport hfor (hlist h)

theorem isPattern_of_compileHosts {r : ServerRecord} {hosts : HostScope}
    (h : r.compileHosts = .ok hosts) :
    ∀ text ∈ r.forHosts ++ r.notForHosts, HostPattern.IsPattern text := by
  unfold compileHosts at h
  split at h
  · cases h
  · cases h
  · next hnot _ =>
    obtain ⟨ps, hps, -⟩ := bind_ok_iff.mp h
    rw [hnot, List.append_nil]
    exact isPattern_of_compilePatterns hps
  · next hfor _ =>
    obtain ⟨ps, hps, -⟩ := bind_ok_iff.mp h
    rw [hfor, List.nil_append]
    exact isPattern_of_compilePatterns hps

/-! ## One record -/

section

variable {r : ServerRecord}

theorem exists_host (h : ¬ r.LacksHost) : ∃ host, r.host = some host ∧ host ≠ "" := by
  cases hr : r.host with
  | none => exact absurd (.inl hr) h
  | some host => exact ⟨host, rfl, fun he => h (.inr (by rw [hr, he]))⟩

theorem exists_port (h : ¬ r.LacksPort) : ∃ port, r.port = some port ∧ port ≠ 0 := by
  cases hr : r.port with
  | none => exact absurd (.inl hr) h
  | some port => exact ⟨port, rfl, fun he => h (.inr (by rw [hr, he]))⟩

theorem compile_of_lacksHost (h : r.LacksHost) : r.compile = .error .hostMissing := by
  unfold compile
  rcases h with h | h
  · rw [h]
    rfl
  · rw [h]
    rfl

theorem compile_of_lacksPort {host : String} (hhost : r.host = some host) (hne : host ≠ "")
    (h : r.LacksPort) : r.compile = .error .portMissing := by
  unfold compile
  rw [hhost]
  simp only [if_neg hne]
  rcases h with h | h
  · rw [h]
    rfl
  · rw [h]
    rfl

/-- Host and port are checked before the patterns are compiled. -/
theorem compile_of_hosts {host : String} {port : UInt16} (hhost : r.host = some host)
    (hne : host ≠ "") (hport : r.port = some port) (h0 : port ≠ 0) :
    r.compile = r.compileHosts >>= fun hosts =>
      .ok ⟨r.forProtocols, hosts, ⟨r.kind, host, port⟩⟩ := by
  unfold compile
  rw [hhost, hport]
  simp only [if_neg hne, if_neg h0]
  rfl

theorem compile_error {fault : RecordFault} (h : r.compile = .error fault) :
    r.FirstFault fault.path fault.kind := by
  by_cases hhost : r.LacksHost
  · cases (compile_of_lacksHost hhost).symm.trans h
    exact .host hhost
  · obtain ⟨host, hsome, hne⟩ := exists_host hhost
    by_cases hport : r.LacksPort
    · cases (compile_of_lacksPort hsome hne hport).symm.trans h
      exact .port hhost hport
    · obtain ⟨port, hsome', h0⟩ := exists_port hport
      rw [compile_of_hosts hsome hne hsome' h0] at h
      cases hhosts : r.compileHosts with
      | ok hosts =>
        rw [hhosts] at h
        cases h
      | error fault' =>
        rw [hhosts] at h
        cases h
        exact compileHosts_error hhost hport hhosts

end

theorem FirstFault.isInvalid {r : ServerRecord} {path : String} {kind : FaultKind}
    (h : r.FirstFault path kind) : r.IsInvalid := by
  cases h with
  | host h => exact .inl h
  | port _ h => exact .inr (.inl h)
  | noPatterns _ _ hfor hnot => exact .inr (.inr (.inl ⟨hfor, hnot⟩))
  | bothLists _ _ hfor hnot => exact .inr (.inr (.inr (.inl ⟨hfor, hnot⟩)))
  | forHosts _ _ hnot h =>
    obtain ⟨text, htext, hbad⟩ := h.exists_mem
    exact .inr (.inr (.inr (.inr ⟨text, List.mem_append_left _ htext, hbad⟩)))
  | notForHosts _ _ hfor h =>
    obtain ⟨text, htext, hbad⟩ := h.exists_mem
    exact .inr (.inr (.inr (.inr ⟨text, List.mem_append_right _ htext, hbad⟩)))

theorem isMadeInto_of_compile {r : ServerRecord} {rule : Rule} (h : r.compile = .ok rule) :
    r.IsMadeInto rule := by
  obtain ⟨hprotocols, hhosts, hat, -, -⟩ := compile_ok h
  have hread {texts : List String} {ps : List HostPattern}
      (h : List.Forall₂ (fun text p => HostPattern.compile text = .ok p) texts ps) :
      List.Forall₂ HostPattern.IsReadAs texts ps :=
    h.imp fun _ _ hp => ⟨hp, HostPattern.source_of_compile hp⟩
  refine ⟨hat, hprotocols, ?_, ?_⟩
  · obtain ⟨ps, hscope, -, -, hps⟩ | ⟨ps, hscope, hfor, -, -⟩ := compileHosts_ok hhosts
    · rw [hscope]
      exact hread hps
    · rw [hscope, hfor]
      exact .nil
  · obtain ⟨ps, hscope, -, hnot, -⟩ | ⟨ps, hscope, -, -, hps⟩ := compileHosts_ok hhosts
    · rw [hscope, hnot]
      exact .nil
    · rw [hscope]
      exact hread hps

theorem not_isInvalid_of_compile {r : ServerRecord} {rule : Rule} (h : r.compile = .ok rule) :
    ¬ r.IsInvalid := by
  obtain ⟨-, hhosts, ⟨-, hhost, hport⟩, hne, h0⟩ := compile_ok h
  have hpattern := isPattern_of_compileHosts hhosts
  rintro ((hnone | hempty) | (hnone | hzero) | ⟨hfor, hnot⟩ | ⟨hfor, hnot⟩ | ⟨text, htext, hbad⟩)
  · rw [hhost] at hnone
    cases hnone
  · rw [hhost] at hempty
    exact hne (Option.some.inj hempty)
  · rw [hport] at hnone
    cases hnone
  · rw [hport] at hzero
    exact h0 (Option.some.inj hzero)
  · obtain ⟨-, -, hne, -⟩ | ⟨-, -, -, hne, -⟩ := compileHosts_ok hhosts
    · exact hne hfor
    · exact hne hnot
  · obtain ⟨-, -, -, hnil, -⟩ | ⟨-, -, hnil, -⟩ := compileHosts_ok hhosts
    · exact hnot hnil
    · exact hfor hnil
  · exact hbad (hpattern text htext)

/-- The records that fail to compile are the invalid ones. -/
theorem isInvalid_iff {r : ServerRecord} : r.IsInvalid ↔ ∃ fault, r.compile = .error fault := by
  constructor
  · intro hinvalid
    cases h : r.compile with
    | ok rule => exact absurd hinvalid (not_isInvalid_of_compile h)
    | error fault => exact ⟨fault, rfl⟩
  · rintro ⟨fault, h⟩
    exact (compile_error h).isInvalid

theorem tells_compiledEvent {r : ServerRecord} {rule : Rule} (h : r.compile = .ok rule)
    (index : Nat) : r.Tells index (rule.compiledEvent index) := by
  have hmade := isMadeInto_of_compile h
  refine ⟨rule.endpoint, hmade.endpoint, ?_⟩
  rw [Rule.compiledEvent, rule.hosts.positiveCount_eq, rule.hosts.negativeCount_eq,
    ← hmade.positive.length_eq, ← hmade.negative.length_eq]

end ServerRecord

/-! ## All records -/

open ServerRecord (IsMadeInto Tells)

section

variable {done : List ServerRecord} {rules : List Rule}
  (h : List.Forall₂ (fun r rule => ServerRecord.compile r = .ok rule) done rules)

include h

/-- Records that compile are told in their order. -/
theorem forall₂_tells (index : Nat) :
    List.Forall₂ (fun entry => Tells entry.1 entry.2) (done.zipIdx index)
      (rules.mapIdx fun i rule => rule.compiledEvent (index + i)) := by
  induction h generalizing index with
  | nil => exact .nil
  | cons hr _ ih =>
    rw [List.mapIdx_cons, List.zipIdx_cons]
    refine .cons (ServerRecord.tells_compiledEvent hr index) ?_
    have hrest := ih (index + 1)
    simpa only [Nat.add_assoc, Nat.add_comm 1] using hrest

/-- Compiling goes on after records that compile. -/
theorem compileFrom_append (index : Nat) (rest : List ServerRecord) :
    compileFrom index (done ++ rest) =
      ((compileFrom (index + done.length) rest).1.map (rules ++ ·),
        (rules.mapIdx fun i rule => rule.compiledEvent (index + i)) ++
          (compileFrom (index + done.length) rest).2) := by
  induction h generalizing index with
  | nil =>
    refine Prod.ext ?_ rfl
    show (compileFrom index rest).1 = (compileFrom index rest).1.map ([] ++ ·)
    cases (compileFrom index rest).1 <;> rfl
  | @cons r rule done rules hr _ ih =>
    have hindex : index + (r :: done).length = index + 1 + done.length := by
      rw [List.length_cons]
      omega
    rw [List.cons_append, compileFrom, hr, hindex]
    simp only [ih (index + 1), List.mapIdx_cons]
    refine Prod.ext ?_ ?_
    · cases (compileFrom (index + 1 + done.length) rest).1 <;> rfl
    · simp only [Nat.add_assoc, Nat.add_comm 1, List.cons_append, Nat.add_zero]

end

/-- Records without an invalid one compile, each into what it says. -/
theorem forall₂_compile {records : List ServerRecord} (h : ∀ r ∈ records, ¬ r.IsInvalid) :
    ∃ rules, List.Forall₂ (fun r rule => ServerRecord.compile r = .ok rule) records rules := by
  induction records with
  | nil => exact ⟨[], .nil⟩
  | cons r records ih =>
    obtain ⟨hr, hrest⟩ := List.forall_mem_cons.mp h
    obtain ⟨rules, hrules⟩ := ih hrest
    cases hcompile : r.compile with
    | ok rule => exact ⟨rule :: rules, .cons hcompile hrules⟩
    | error fault => exact absurd (ServerRecord.isInvalid_iff.mpr ⟨fault, hcompile⟩) hr

/-- A list with an invalid record has a first one. -/
theorem exists_first_invalid {records : List ServerRecord} (h : ∃ r ∈ records, r.IsInvalid) :
    ∃ done r rest, records = done ++ r :: rest ∧ (∀ r' ∈ done, ¬ r'.IsInvalid) ∧ r.IsInvalid := by
  induction records with
  | nil =>
    obtain ⟨r, hr, -⟩ := h
    cases hr
  | cons first records ih =>
    by_cases hfirst : first.IsInvalid
    · exact ⟨[], first, records, rfl, by simp, hfirst⟩
    · have hlater : ∃ r ∈ records, r.IsInvalid := by
        obtain ⟨r, hr, hinvalid⟩ := h
        rcases List.mem_cons.mp hr with rfl | hr
        · exact absurd hinvalid hfirst
        · exact ⟨r, hr, hinvalid⟩
      obtain ⟨done, r, rest, rfl, hdone, hr⟩ := ih hlater
      exact ⟨first :: done, r, rest, rfl, List.forall_mem_cons.mpr ⟨hfirst, hdone⟩, hr⟩

/-! ## Top theorem -/

/-- **The first violation is reported, and nothing else.**  Without an invalid record there is a
rule for each record, in their order, that says what the record says.  Otherwise the error is that
of the first invalid record, and names the first check that fails there.  The valid records before
it, or all of them, are told with their indices, in their order, and no other is. -/
theorem compileRules_reports_firstFault (records : List ServerRecord) :
    ((∀ r ∈ records, ¬ r.IsInvalid) → ∃ rules events,
      compileRules records = (.ok rules, events) ∧ List.Forall₂ IsMadeInto records rules ∧
      List.Forall₂ (fun entry => Tells entry.1 entry.2) records.zipIdx events) ∧
    ((∃ r ∈ records, r.IsInvalid) → ∃ done r rest fault path kind events,
      records = done ++ r :: rest ∧ (∀ r' ∈ done, ¬ r'.IsInvalid) ∧ r.IsInvalid ∧
      compileRules records = (.error (.record done.length fault), events) ∧
      r.FirstFault path kind ∧ fault.kind = kind ∧
      Error.field done.length fault = "servers[" ++ toString done.length ++ "]" ++ path ∧
      List.Forall₂ (fun entry => Tells entry.1 entry.2) done.zipIdx events) := by
  constructor
  · intro h
    obtain ⟨rules, hrules⟩ := forall₂_compile h
    have hall := compileFrom_append hrules 0 []
    rw [List.append_nil] at hall
    refine ⟨_, _, hall, ?_, ?_⟩
    · show List.Forall₂ IsMadeInto records (rules ++ [])
      rw [List.append_nil]
      exact hrules.imp fun _ _ => ServerRecord.isMadeInto_of_compile
    · show List.Forall₂ _ _ (_ ++ [])
      rw [List.append_nil]
      exact forall₂_tells hrules 0
  · intro h
    obtain ⟨done, r, rest, rfl, hdone, hr⟩ := exists_first_invalid h
    obtain ⟨rules, hrules⟩ := forall₂_compile hdone
    obtain ⟨fault, hfault⟩ := ServerRecord.isInvalid_iff.mp hr
    have hfirst : compileFrom (0 + done.length) (r :: rest) =
        (.error (.record done.length fault), []) := by
      rw [Nat.zero_add, compileFrom, hfault]
    have hall := compileFrom_append hrules 0 (r :: rest)
    rw [hfirst] at hall
    refine ⟨done, r, rest, fault, _, _, _, rfl, hdone, hr, hall, ServerRecord.compile_error hfault,
      rfl, rfl, ?_⟩
    show List.Forall₂ _ _ (_ ++ [])
    rw [List.append_nil]
    exact forall₂_tells hrules 0

/-- The second pattern of the second record is empty; the third record, which has no host, is not
looked at. -/
theorem compileRules_reports_firstFault_emptyPattern :
    let good : ServerRecord := { ServerRecord.new "a" 80 with forHosts := ["x"] }
    let bad : ServerRecord := { ServerRecord.new "b" 80 with notForHosts := ["y", ""] }
    let worse : ServerRecord := ServerRecord.new "" 0
    (∃ r ∈ [good, bad, worse], r.IsInvalid) ∧
      compileRules [good, bad, worse] = (.error (.record 1 (.patternEmpty .notForHosts 1)),
        [.ruleCompiled 0 ⟨.http, "a", 80⟩ 1 0]) ∧
      ∃ path, bad.FirstFault path .notEmpty ∧
        Error.field 1 (.patternEmpty .notForHosts 1) = "servers[1]" ++ path := by
  intro good bad worse
  have hbad : bad.IsInvalid :=
    .inr (.inr (.inr (.inr ⟨"", by simp [bad], fun h => h.1 rfl⟩)))
  have hsome : ∃ r ∈ [good, bad, worse], r.IsInvalid := ⟨bad, by simp, hbad⟩
  have hresult : compileRules [good, bad, worse] =
      (.error (.record 1 (.patternEmpty .notForHosts 1)),
        [.ruleCompiled 0 ⟨.http, "a", 80⟩ 1 0]) := by
    decide +kernel
  obtain ⟨done, r, rest, fault, path, kind, events, hrecords, -, -, hcompile, hfirst, rfl, hfield,
    -⟩ := (compileRules_reports_firstFault [good, bad, worse]).2 hsome
  rw [hresult, Prod.mk.injEq, Except.error.injEq, Error.record.injEq] at hcompile
  obtain ⟨⟨hlength, rfl⟩, -⟩ := hcompile
  obtain ⟨first, rfl⟩ := List.length_eq_one_iff.mp hlength.symm
  obtain ⟨rfl, rfl, rfl⟩ : good = first ∧ bad = r ∧ [worse] = rest := by simpa using hrecords
  have hindex : "servers[" ++ toString [good].length ++ "]" = "servers[1]" := by decide +kernel
  rw [hindex] at hfield
  exact ⟨hsome, hresult, path, hfirst, hfield⟩

end ProxyRouting
