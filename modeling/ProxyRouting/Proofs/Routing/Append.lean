import ProxyRouting.Proofs.Routing.Log
import ProxyRouting.Proofs.Rules.FirstFault

/-!
# Lists of records one after the other

What is compiled of two lists one after the other, and how requests are routed then, follows from the
two lists.  The records of the second list have as many more before them as the first list is long;
their faults and the numbers of their rules are moved on by that (`shift`), and nothing else changes.

    compileRules (S ++ T) = the rules of S and those of T, or the first fault
    among (rs ++ ts) d = (among rs d).orElse ((among ts d).shift rs.length)        (among_append)
    r does not serve the request → S ++ r :: T and S ++ T give it the same target
-/

namespace ProxyRouting

/-! ## Numbers further on -/

/-- The error for a record that has `n` more records before it. -/
def Error.shift (n : Nat) : Error → Error
  | .record index fault => .record (n + index) fault
  | e => e

namespace Route

/-- The route by a rule that has `n` more rules before it. -/
def shift (n : Nat) : Route → Route
  | direct => direct
  | via rule endpoint => via (n + rule) endpoint

/-- The route, or another where it is direct. -/
def orElse : Route → Route → Route
  | direct, other => other
  | via rule endpoint, _ => via rule endpoint

theorem target_shift (n : Nat) (route : Route) : (route.shift n).target = route.target := by
  cases route <;> rfl

theorem target_orElse_congr (a : Route) {b c : Route} (h : b.target = c.target) :
    (a.orElse b).target = (a.orElse c).target := by
  cases a with
  | direct => exact h
  | via rule endpoint => rfl

/-! ## Routes -/

theorem amongFrom_add (d : Destination) (n : Nat) (rules : List Rule) :
    ∀ k, amongFrom (n + k) d rules = (amongFrom k d rules).shift n := by
  induction rules with
  | nil => exact fun k => rfl
  | cons rule rules ih =>
    intro k
    rw [amongFrom, amongFrom]
    split
    · rfl
    · exact ih (k + 1)

theorem amongFrom_append (d : Destination) (rules more : List Rule) :
    ∀ k, amongFrom k d (rules ++ more) =
      (amongFrom k d rules).orElse (amongFrom (k + rules.length) d more) := by
  induction rules with
  | nil => exact fun k => rfl
  | cons rule rules ih =>
    intro k
    rw [List.cons_append, amongFrom, amongFrom]
    split
    · rfl
    · rw [ih (k + 1), List.length_cons, Nat.add_right_comm, Nat.add_assoc]

/-- Rules that stand further back are asked where those before them leave a request direct. -/
theorem among_append (rules more : List Rule) (d : Destination) :
    among (rules ++ more) d = (among rules d).orElse ((among more d).shift rules.length) := by
  unfold among
  rw [amongFrom_append, Nat.zero_add, ← amongFrom_add, Nat.add_zero]

/-- A rule that does not apply moves the others on. -/
theorem among_cons_of_not_applies {rule : Rule} {d : Destination}
    (h : rule.applies d.scheme d.host = false) (rules : List Rule) :
    among (rule :: rules) d = (among rules d).shift 1 := by
  unfold among
  rw [amongFrom, h, if_neg (by decide)]
  exact amongFrom_add d 1 rules 0

end Route

/-! ## Records -/

/-- Only the numbers of the records are others after `n` more. -/
theorem compileFrom_add (n : Nat) (records : List ServerRecord) :
    ∀ index, (compileFrom (n + index) records).1 =
      (compileFrom index records).1.mapError (Error.shift n) := by
  induction records with
  | nil => exact fun index => rfl
  | cons r records ih =>
    intro index
    rw [compileFrom, compileFrom]
    cases r.compile with
    | error fault => rfl
    | ok rule =>
      have hrest := ih (index + 1)
      rw [← Nat.add_assoc] at hrest
      simp only [hrest]
      cases (compileFrom (index + 1) records).1 with
      | error e => rfl
      | ok rules => rfl

/-- Only the fault of a record is an error. -/
theorem compileFrom_error {records : List ServerRecord} {e : Error} :
    ∀ {index : Nat}, (compileFrom index records).1 = .error e → ∃ k fault, e = .record k fault := by
  induction records with
  | nil =>
    intro index h
    cases h
  | cons r records ih =>
    intro index h
    rw [compileFrom] at h
    cases hr : r.compile with
    | error fault =>
      rw [hr] at h
      cases h
      exact ⟨index, fault, rfl⟩
    | ok rule =>
      simp only [hr] at h
      cases hrest : (compileFrom (index + 1) records).1 with
      | error e' =>
        rw [hrest] at h
        cases h
        exact ih hrest
      | ok rules =>
        rw [hrest] at h
        cases h

/-- Nothing after a fault is looked at. -/
theorem compileFrom_append_of_error {S : List ServerRecord} (T : List ServerRecord) :
    ∀ {index : Nat} {e : Error}, (compileFrom index S).1 = .error e →
      (compileFrom index (S ++ T)).1 = .error e := by
  induction S with
  | nil =>
    intro index e h
    cases h
  | cons r S ih =>
    intro index e h
    rw [List.cons_append, compileFrom]
    rw [compileFrom] at h
    cases hr : r.compile with
    | error fault =>
      rw [hr] at h
      exact h
    | ok rule =>
      simp only [hr] at h ⊢
      cases hrest : (compileFrom (index + 1) S).1 with
      | error e' =>
        rw [hrest] at h
        rw [ih hrest]
        exact h
      | ok rules =>
        rw [hrest] at h
        cases h

section
variable {S : List ServerRecord} {rules : List Rule} (h : (compileRules S).1 = .ok rules)

include h

/-- After records that compile the rest is compiled with its numbers moved on. -/
theorem compileRules_append_of_ok (T : List ServerRecord) : (compileRules (S ++ T)).1 =
    ((compileRules T).1.mapError (Error.shift S.length)).map (rules ++ ·) := by
  have happend := congrArg Prod.fst (compileFrom_append (compileRules_ok_iff.mp h) 0 T)
  rw [Nat.zero_add, ← Nat.add_zero S.length, compileFrom_add] at happend
  exact happend

end

/-- Two lists compile together where each of them does. -/
theorem compileRules_append_ok_iff {S T : List ServerRecord} {all : List Rule} :
    (compileRules (S ++ T)).1 = .ok all ↔ ∃ rules more, (compileRules S).1 = .ok rules ∧
      (compileRules T).1 = .ok more ∧ all = rules ++ more := by
  constructor
  · intro h
    cases hS : (compileRules S).1 with
    | error e =>
      rw [show (compileRules (S ++ T)).1 = .error e from compileFrom_append_of_error T hS] at h
      cases h
    | ok rules =>
      rw [compileRules_append_of_ok hS] at h
      cases hT : (compileRules T).1 with
      | error e =>
        rw [hT] at h
        cases h
      | ok more =>
        rw [hT] at h
        cases h
        exact ⟨rules, more, rfl, rfl, rfl⟩
  · rintro ⟨rules, more, hS, hT, rfl⟩
    rw [compileRules_append_of_ok hS, hT]
    rfl

/-! ## Replies -/

/-- The target that a reply names. -/
def Reply.target? : Reply → Option Target
  | .route r => some r.target
  | .target t => some t
  | .noted => none

/-- A request for a destination is answered with its route or the target of that. -/
theorem replyBy_asks (q : Request) :
    (∃ (d : Except Error Destination) (f : Route → Reply), d.toOption = q.destination? ∧
      (∀ route, (f route).target? = some route.target) ∧
      ∀ rules, replyBy rules q = d.map fun d => f (.among rules d)) ∨
    (q.destination? = none ∧ ∀ rules, replyBy rules q = .ok .noted) := by
  cases q with
  | resolve scheme host =>
    exact .inl ⟨Destination.of scheme host, .route, Request.toOption_of scheme host,
      fun _ => rfl, fun _ => rfl⟩
  | select scheme host =>
    exact .inl ⟨Destination.of scheme host, fun route => .target route.target,
      Request.toOption_of scheme host, fun _ => rfl, fun _ => rfl⟩
  | selectUri uri =>
    exact .inl ⟨Destination.ofUri uri, fun route => .target route.target, rfl, fun _ => rfl,
      fun _ => rfl⟩
  | connectFailed uri cause => exact .inr ⟨rfl, fun _ => rfl⟩

/-- The rules matter only to a request that names a destination. -/
theorem replyBy_cases (q : Request) :
    (∃ (d : Destination) (f : Route → Reply), q.destination? = some d ∧
      (∀ route, (f route).target? = some route.target) ∧
      ∀ rules, replyBy rules q = .ok (f (.among rules d))) ∨
    (q.destination? = none ∧ ∃ v, ∀ rules, replyBy rules q = v) := by
  obtain ⟨d, f, hd, hf, hreply⟩ | ⟨hnone, hreply⟩ := replyBy_asks q
  · cases d with
    | ok d => exact .inl ⟨d, f, hd.symm, hf, hreply⟩
    | error e => exact .inr ⟨hd.symm, .error e, hreply⟩
  · exact .inr ⟨hnone, _, hreply⟩

/-- The rules of a further record that does not serve the request leave the target as it is. -/
theorem target?_replyBy_insert {S T : List ServerRecord} {r : ServerRecord} {all fewer : List Rule}
    (hall : (compileRules (S ++ r :: T)).1 = .ok all)
    (hfewer : (compileRules (S ++ T)).1 = .ok fewer) {q : Request}
    (hq : ∀ d, q.destination? = some d → ¬ r.Serves d.scheme d.host) :
    (replyBy all q).map Reply.target? = (replyBy fewer q).map Reply.target? := by
  obtain ⟨rules, more, hS, hrT, rfl⟩ := compileRules_append_ok_iff.mp hall
  obtain ⟨rules', more', hS', hT, rfl⟩ := compileRules_append_ok_iff.mp hfewer
  obtain rfl := Except.ok.inj (hS.symm.trans hS')
  obtain ⟨rule, later, hr, hlater, rfl⟩ :=
    List.forall₂_cons_left_iff.mp (compileRules_ok_iff.mp hrT)
  obtain rfl := Except.ok.inj ((compileRules_ok_iff.mpr hlater).symm.trans hT)
  obtain ⟨d, f, hd, hf, hreply⟩ | ⟨-, v, hreply⟩ := replyBy_cases q
  · have hskip : rule.applies d.scheme d.host = false := by
      rw [← Bool.not_eq_true, ServerRecord.applies_iff_serves hr]
      exact hq d hd
    have htarget : (Route.among (rules ++ rule :: later) d).target =
        (Route.among (rules ++ later) d).target := by
      rw [Route.among_append, Route.among_append, Route.among_cons_of_not_applies hskip]
      apply Route.target_orElse_congr
      simp only [Route.target_shift]
    rw [hreply, hreply]
    show Except.ok (f _).target? = Except.ok (f _).target?
    rw [hf, hf, htarget]
  · rw [hreply, hreply]

/-- Rules that stand further back change direct answers only. -/
theorem replyBy_append_of_not_direct {rules more : List Rule} {q : Request}
    (h : (replyBy rules q).map Reply.target? ≠ .ok (some .direct)) :
    replyBy (rules ++ more) q = replyBy rules q := by
  obtain ⟨d, f, -, hf, hreply⟩ | ⟨-, v, hreply⟩ := replyBy_cases q
  · rw [hreply] at h
    rw [hreply, hreply, Route.among_append]
    cases hroute : Route.among rules d with
    | direct =>
      rw [hroute] at h
      exact absurd (congrArg Except.ok (hf .direct)) h
    | via rule endpoint => rfl
  · rw [hreply, hreply]

/-! ## Top theorem -/

/-- **Lists of records compose.**  Two lists compile one after the other just where each of them
does; the fault is that of the first, or else that of the second with its index moved on.  A router
of both gives the route of the first where there is a rule, and else that of the second with its
number moved on.  So the records of the second list change direct answers only, and a record that
does not serve a request does not change its target, wherever it stands. -/
theorem compileRules_append_compose (S T : List ServerRecord) :
    ((∃ rules, (compileRules (S ++ T)).1 = .ok rules) ↔
      (∃ rules, (compileRules S).1 = .ok rules) ∧ ∃ rules, (compileRules T).1 = .ok rules) ∧
    (∀ e, (compileRules S).1 = .error e → (compileRules (S ++ T)).1 = .error e) ∧
    (∀ rules e, (compileRules S).1 = .ok rules → (compileRules T).1 = .error e →
      ∃ index fault, e = .record index fault ∧
        (compileRules (S ++ T)).1 = .error (.record (S.length + index) fault)) ∧
    (∀ s t both : Router, s.IsMadeOf S → t.IsMadeOf T → both.IsMadeOf (S ++ T) →
      (∀ scheme host, scheme ≠ "" → host ≠ "" → ∃ a b,
        (s.answer (.resolve scheme host)).value = .ok (.route a) ∧
        (t.answer (.resolve scheme host)).value = .ok (.route b) ∧
        (both.answer (.resolve scheme host)).value =
          .ok (.route (a.orElse (b.shift S.length)))) ∧
      ∀ q, (s.answer q).value.map Reply.target? ≠ .ok (some .direct) →
        (both.answer q).value = (s.answer q).value) ∧
    ∀ (r : ServerRecord) (more fewer : Router), more.IsMadeOf (S ++ r :: T) →
      fewer.IsMadeOf (S ++ T) → ∀ q : Request,
      (∀ d, q.destination? = some d → ¬ r.Serves d.scheme d.host) →
        (more.answer q).value.map Reply.target? = (fewer.answer q).value.map Reply.target? := by
  refine ⟨⟨?_, ?_⟩, fun e => compileFrom_append_of_error T, fun rules e hS hT => ?_,
    fun s t both hs ht hboth => ?_, fun r more fewer hmore hfewer q hq => ?_⟩
  · rintro ⟨all, hall⟩
    obtain ⟨rules, more, hS, hT, -⟩ := compileRules_append_ok_iff.mp hall
    exact ⟨⟨rules, hS⟩, more, hT⟩
  · rintro ⟨⟨rules, hS⟩, more, hT⟩
    exact ⟨rules ++ more, compileRules_append_ok_iff.mpr ⟨rules, more, hS, hT, rfl⟩⟩
  · obtain ⟨index, fault, rfl⟩ := compileFrom_error hT
    refine ⟨index, fault, rfl, ?_⟩
    rw [compileRules_append_of_ok hS, hT]
    rfl
  · obtain ⟨rules, hS, hs⟩ := hs.exists_rules
    obtain ⟨more, hT, ht⟩ := ht.exists_rules
    obtain ⟨all, hall, hboth⟩ := hboth.exists_rules
    obtain rfl := Except.ok.inj (hall.symm.trans
      (compileRules_append_ok_iff.mpr ⟨rules, more, hS, hT, rfl⟩))
    constructor
    · intro scheme host hscheme hhost
      have hd : Destination.of scheme host = .ok ⟨scheme, host, hscheme, hhost⟩ :=
        Destination.of_eq_ok_iff.mpr ⟨rfl, rfl⟩
      have hlength : rules.length = S.length := (compileRules_ok_iff.mp hS).length_eq.symm
      refine ⟨_, _, (hs _).trans (by rw [replyBy, hd]; rfl), (ht _).trans (by rw [replyBy, hd]; rfl),
        (hboth _).trans ?_⟩
      rw [replyBy, hd, ← hlength, ← Route.among_append]
      rfl
    · intro q hq
      rw [hs] at hq ⊢
      rw [hboth]
      exact replyBy_append_of_not_direct hq
  · obtain ⟨all, hall, hmore⟩ := hmore.exists_rules
    obtain ⟨rest, hrest, hfewer⟩ := hfewer.exists_rules
    rw [hmore, hfewer]
    exact target?_replyBy_insert hall hrest hq

/-- The second proxy takes what the first leaves, with the number 1; a record without patterns that
is the second of two more has the index 3. -/
theorem compileRules_append_compose_two :
    let first : ServerRecord := { ServerRecord.new "first" 3128 with notForHosts := ["a"] }
    let second : ServerRecord := { ServerRecord.new "second" 3129 with forHosts := ["a", ".b"] }
    let s := Router.new [⟨defaultProtocols, .allBut [.suffix "a"], ⟨.http, "first", 3128⟩⟩]
    let t := Router.new
      [⟨defaultProtocols, .only [.suffix "a", .suffix ".b"], ⟨.http, "second", 3129⟩⟩]
    let both := Router.new (s.rules ++ t.rules)
    s.IsMadeOf [first] ∧ t.IsMadeOf [second] ∧ both.IsMadeOf [first, second] ∧
      (both.answer (.resolve "http" "x.a")).value = .ok (.route (.via 1 ⟨.http, "second", 3129⟩)) ∧
      (compileRules ([first, second] ++ [first, ServerRecord.new "third" 1])).1 =
        .error (.record (2 + 1) .noPatterns) := by
  intro first second s t both
  have hs : s.IsMadeOf [first] := ⟨s, false, [], [], by decide, rfl⟩
  have ht : t.IsMadeOf [second] := ⟨t, false, [], [], by decide, rfl⟩
  have hboth : both.IsMadeOf [first, second] := ⟨both, false, [], [], by decide, rfl⟩
  refine ⟨hs, ht, hboth, ?_, ?_⟩
  · obtain ⟨a, b, ha, hb, hab⟩ := ((compileRules_append_compose [first] [second]).2.2.2.1
      s t both hs ht hboth).1 "http" "x.a" (by decide) (by decide)
    have ha' : (s.answer (.resolve "http" "x.a")).value = .ok (.route .direct) := by decide
    have hb' : (t.answer (.resolve "http" "x.a")).value =
        .ok (.route (.via 0 ⟨.http, "second", 3129⟩)) := by decide
    rw [ha'] at ha
    rw [hb'] at hb
    cases ha
    cases hb
    exact hab
  · obtain ⟨index, fault, he, hall⟩ :=
      (compileRules_append_compose [first, second] [first, ServerRecord.new "third" 1]).2.2.1
        both.rules (.record 1 .noPatterns) (by decide) (by decide)
    cases he
    exact hall

end ProxyRouting
