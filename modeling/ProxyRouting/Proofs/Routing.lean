import ProxyRouting.Proofs.Rules
import ProxyRouting.Router

/-!
# Routes over whole runs

A router answers each request as its rules alone would, whatever it has been asked before and
whatever it reports.  The reason is one invariant: what is decided agrees with the rules
(`Agrees`); a fresh router has it and every answer keeps it.

    r.Agrees → (r.run requests).map Answer.value = requests.map (replyBy r.rules)

Where the rules come from records, the route is the one to the first record that serves the request
(`FirstServing`), which is at most one.
-/

namespace ProxyRouting

/-! ## Evaluation -/

namespace Route

theorem amongFrom_direct_iff (d : Destination) (rules : List Rule) :
    ∀ k, amongFrom k d rules = .direct ↔ ∀ rule ∈ rules, rule.applies d.scheme d.host = false := by
  induction rules with
  | nil => intro k; simp [amongFrom]
  | cons rule rules ih =>
    intro k
    rw [amongFrom]
    cases ha : rule.applies d.scheme d.host with
    | true => simp [ha]
    | false => simp [ha, ih (k + 1)]

theorem amongFrom_via_iff (d : Destination) (rules : List Rule) :
    ∀ k i e, amongFrom k d rules = .via i e ↔ ∃ n rule, i = k + n ∧ rules[n]? = some rule ∧
      rule.endpoint = e ∧ rule.applies d.scheme d.host = true ∧
      ∀ m < n, ∀ rule', rules[m]? = some rule' → rule'.applies d.scheme d.host = false := by
  induction rules with
  | nil => intro k i e; simp [amongFrom]
  | cons rule rules ih =>
    intro k i e
    rw [amongFrom]
    cases ha : rule.applies d.scheme d.host with
    | true =>
      rw [if_pos rfl, Route.via.injEq]
      constructor
      · rintro ⟨rfl, rfl⟩
        exact ⟨0, rule, rfl, rfl, rfl, ha, fun m hm => absurd hm (Nat.not_lt_zero m)⟩
      · rintro ⟨n, rule', rfl, hn, rfl, -, hbefore⟩
        cases n with
        | zero => cases hn; exact ⟨rfl, rfl⟩
        | succ n =>
          have := hbefore 0 (Nat.succ_pos n) rule rfl
          rw [ha] at this
          cases this
    | false =>
      rw [if_neg (by decide), ih (k + 1)]
      constructor
      · rintro ⟨n, rule', rfl, hn, he, happ, hbefore⟩
        refine ⟨n + 1, rule', by omega, hn, he, happ, fun m hm rule'' hm' => ?_⟩
        cases m with
        | zero => cases hm'; exact ha
        | succ m => exact hbefore m (by omega) rule'' hm'
      · rintro ⟨n, rule', rfl, hn, he, happ, hbefore⟩
        cases n with
        | zero =>
          cases hn
          rw [ha] at happ
          cases happ
        | succ n =>
          exact ⟨n, rule', by omega, hn, he, happ,
            fun m hm rule'' hm' => hbefore (m + 1) (by omega) rule'' hm'⟩

end Route

/-! ## The invariant of a router -/

namespace Router

/-- Every decision that is kept is the one that the rules give. -/
def Agrees (r : Router) : Prop :=
  ∀ p ∈ r.decided, p.2 = Route.among r.rules p.1

theorem agrees_new (rules : List Rule) (print : Bool) (exclusions : List String) :
    ((new rules).withReporting print exclusions).Agrees := by
  intro p hp
  cases hp

theorem lookup_mem {d : Destination} {route : Route} :
    ∀ {l : List (Destination × Route)}, l.lookup d = some route → (d, route) ∈ l := by
  intro l
  induction l with
  | nil => intro h; cases h
  | cons p l ih =>
    intro h
    rw [List.lookup_cons] at h
    split at h
    · next hd =>
      cases h
      rw [eq_of_beq hd]
      exact List.mem_cons_self
    · exact List.mem_cons_of_mem _ (ih h)

/-- What is told of an answer beside its decision. -/
def report (r : Router) (d : Destination) (route : Route) : List Event :=
  if r.reports d then [.routeReported d route] else []

theorem resolve_hit {r : Router} {d : Destination} {route : Route}
    (h : r.decided.lookup d = some route) : r.resolve d = ⟨route, r, r.report d route⟩ := by
  rw [resolve, h]
  rfl

theorem resolve_miss {r : Router} {d : Destination} (h : r.decided.lookup d = none) :
    r.resolve d = ⟨.among r.rules d, { r with decided := (d, .among r.rules d) :: r.decided },
      .routeDecided d (.among r.rules d) :: r.report d (.among r.rules d)⟩ := by
  rw [resolve, h]
  rfl

theorem resolve_rules (r : Router) (d : Destination) : (r.resolve d).router.rules = r.rules := by
  cases h : r.decided.lookup d with
  | some route => rw [resolve_hit h]
  | none => rw [resolve_miss h]

theorem resolve_value {r : Router} (h : r.Agrees) (d : Destination) :
    (r.resolve d).value = Route.among r.rules d := by
  cases hd : r.decided.lookup d with
  | some route => rw [resolve_hit hd]; exact h _ (lookup_mem hd)
  | none => rw [resolve_miss hd]

theorem resolve_agrees {r : Router} (h : r.Agrees) (d : Destination) :
    (r.resolve d).router.Agrees := by
  cases hd : r.decided.lookup d with
  | some route => rw [resolve_hit hd]; exact h
  | none =>
    rw [resolve_miss hd]
    intro p hp
    rcases List.mem_cons.mp hp with rfl | hp
    · rfl
    · exact h p hp

end Router

/-! ## Answers -/

/-- The reply to a request by the rules alone. -/
def replyBy (rules : List Rule) : Request → Except Error Reply
  | .resolve scheme host => (Destination.of scheme host).map fun d => .route (.among rules d)
  | .select scheme host =>
    (Destination.of scheme host).map fun d => .target (Route.among rules d).target
  | .selectUri uri => (Destination.ofUri uri).map fun d => .target (Route.among rules d).target
  | .connectFailed _ _ => .ok .noted

namespace Router

theorem ask_rules {α : Type} (r : Router) (d : Except Error Destination) (f : Route → α) :
    (r.ask d f).router.rules = r.rules := by
  cases d with
  | error e => rfl
  | ok d => exact resolve_rules r d

theorem ask_value {α : Type} {r : Router} (h : r.Agrees) (d : Except Error Destination)
    (f : Route → α) : (r.ask d f).value = d.map fun d => f (.among r.rules d) := by
  cases d with
  | error e => rfl
  | ok d => exact congrArg (fun route => Except.ok (f route)) (resolve_value h d)

theorem ask_agrees {α : Type} {r : Router} (h : r.Agrees) (d : Except Error Destination)
    (f : Route → α) : (r.ask d f).router.Agrees := by
  cases d with
  | error e => exact h
  | ok d => exact resolve_agrees h d

theorem answer_rules (r : Router) (q : Request) : (r.answer q).router.rules = r.rules := by
  cases q with
  | resolve scheme host => exact ask_rules r _ _
  | select scheme host => exact ask_rules r _ _
  | selectUri uri => exact ask_rules r _ _
  | connectFailed uri cause => rfl

theorem answer_value {r : Router} (h : r.Agrees) (q : Request) :
    (r.answer q).value = replyBy r.rules q := by
  cases q with
  | resolve scheme host => exact ask_value h _ _
  | select scheme host => exact ask_value h _ _
  | selectUri uri => exact ask_value h _ _
  | connectFailed uri cause => rfl

theorem answer_agrees {r : Router} (h : r.Agrees) (q : Request) : (r.answer q).router.Agrees := by
  cases q with
  | resolve scheme host => exact ask_agrees h _ _
  | select scheme host => exact ask_agrees h _ _
  | selectUri uri => exact ask_agrees h _ _
  | connectFailed uri cause => exact h

/-- The router after some requests. -/
def after (r : Router) (requests : List Request) : Router :=
  requests.foldl (fun r q => (r.answer q).router) r

theorem after_rules (requests : List Request) :
    ∀ r : Router, (r.after requests).rules = r.rules := by
  induction requests with
  | nil => intro r; rfl
  | cons q requests ih => intro r; exact (ih _).trans (answer_rules r q)

theorem after_agrees (requests : List Request) :
    ∀ {r : Router}, r.Agrees → (r.after requests).Agrees := by
  induction requests with
  | nil => intro r h; exact h
  | cons q requests ih => intro r h; exact ih (answer_agrees h q)

/-- Each answer of a run is what the rules alone say. -/
theorem run_replies (requests : List Request) : ∀ {r : Router}, r.Agrees →
    List.Forall₂ (fun q a => a.value = replyBy r.rules q) requests (r.run requests) := by
  induction requests with
  | nil => intro r _; exact .nil
  | cons q requests ih =>
    intro r h
    refine .cons (answer_value h q) ?_
    have := ih (answer_agrees h q)
    rwa [answer_rules] at this

/-- The router was made from the records, whatever it reports, and may have been asked before. -/
def IsMadeOf (r : Router) (records : List ServerRecord) : Prop :=
  ∃ fresh print exclusions requests, (ofServers records).1 = .ok fresh ∧
    r = (fresh.withReporting print exclusions).after requests

/-- It answers by the rules of the records. -/
theorem IsMadeOf.exists_rules {r : Router} {records : List ServerRecord} (h : r.IsMadeOf records) :
    ∃ rules, (compileRules records).1 = .ok rules ∧ ∀ q, (r.answer q).value = replyBy rules q := by
  obtain ⟨fresh, print, exclusions, requests, hfresh, rfl⟩ := h
  unfold ofServers at hfresh
  cases hrules : (compileRules records).1 with
  | error e =>
    simp only [hrules] at hfresh
    cases hfresh
  | ok rules =>
    simp only [hrules] at hfresh
    cases hfresh
    have hagrees := agrees_new rules print exclusions
    refine ⟨rules, rfl, fun q => (answer_value (after_agrees requests hagrees) q).trans ?_⟩
    rw [after_rules]
    rfl

end Router

/-! ## Routes by records -/

/-- The route to the first of the records that serves requests of the scheme to the host, and the
direct one if none does. -/
def FirstServing (records : List ServerRecord) (scheme host : String) : Route → Prop
  | .direct => ∀ r ∈ records, ¬ r.Serves scheme host
  | .via i e => ∃ r, records[i]? = some r ∧ r.IsAt e ∧ r.Serves scheme host ∧
      ∀ j < i, ∀ r', records[j]? = some r' → ¬ r'.Serves scheme host

theorem FirstServing.unique {records : List ServerRecord} {scheme host : String} {a b : Route}
    (ha : FirstServing records scheme host a) (hb : FirstServing records scheme host b) :
    a = b := by
  cases a with
  | direct =>
    cases b with
    | direct => rfl
    | via j f =>
      obtain ⟨r, hr, -, hs, -⟩ := hb
      exact absurd hs (ha r (List.mem_of_getElem? hr))
  | via i e =>
    obtain ⟨r, hr, he, hs, hbefore⟩ := ha
    cases b with
    | direct => exact absurd hs (hb r (List.mem_of_getElem? hr))
    | via j f =>
      obtain ⟨r', hr', hf, hs', hbefore'⟩ := hb
      have hij : i = j := by
        rcases Nat.lt_trichotomy i j with h | h | h
        · exact absurd hs (hbefore' i h r hr)
        · exact h
        · exact absurd hs' (hbefore j h r' hr')
      subst hij
      rw [hr] at hr'
      cases hr'
      rw [he.unique hf]

section
variable {records : List ServerRecord} {rules : List Rule}

theorem getElem?_of_forall₂ {α β : Type} {R : α → β → Prop} {as : List α} {bs : List β}
    (h : List.Forall₂ R as bs) : ∀ (i : Nat) (b : β), bs[i]? = some b →
      ∃ a, as[i]? = some a ∧ R a b := by
  induction h with
  | nil => intro i b hb; simp at hb
  | cons hab _ ih =>
    intro i b hb
    cases i with
    | zero => cases hb; exact ⟨_, rfl, hab⟩
    | succ i => exact ih i b hb

theorem among_firstServing (h : (compileRules records).1 = .ok rules) (d : Destination) :
    FirstServing records d.scheme d.host (.among rules d) := by
  have hall := compileRules_ok_iff.mp h
  cases hroute : Route.among rules d with
  | direct =>
    intro r hr hs
    obtain ⟨i, hi⟩ := List.mem_iff_getElem?.mp hr
    obtain ⟨rule, hrule, hc⟩ := getElem?_of_forall₂ hall.flip i r hi
    have := (Route.amongFrom_direct_iff d rules 0).mp hroute rule (List.mem_of_getElem? hrule)
    rw [(ServerRecord.applies_iff_serves hc _ _).mpr hs] at this
    cases this
  | via i e =>
    obtain ⟨n, rule, hi, hn, rfl, happ, hbefore⟩ :=
      (Route.amongFrom_via_iff d rules 0 i e).mp hroute
    have hin : i = n := by omega
    subst hin
    obtain ⟨r, hr, hc⟩ := getElem?_of_forall₂ hall i rule hn
    refine ⟨r, hr, (ServerRecord.compile_ok hc).2.2.1,
      (ServerRecord.applies_iff_serves hc _ _).mp happ, fun j hj r' hr' hs => ?_⟩
    obtain ⟨rule', hrule', hc'⟩ := getElem?_of_forall₂ hall.flip j r' hr'
    have := hbefore j hj rule' hrule'
    rw [(ServerRecord.applies_iff_serves hc' _ _).mpr hs] at this
    cases this

end

/-! ## Replies by records -/

section
variable (records : List ServerRecord)

/-- The reply for the route to a scheme and a host; there is none where one of them is empty. -/
def ReplyFor (scheme host : String) (f : Route → Reply) (v : Except Error Reply) : Prop :=
  if scheme = "" ∨ host = "" then v = .error (.request scheme host)
  else ∃ route, FirstServing records scheme host route ∧ v = .ok (f route)

/-- The reply to a request, as the records have it. -/
def RepliesTo (q : Request) (v : Except Error Reply) : Prop :=
  match q with
  | .resolve scheme host => ReplyFor records scheme host .route v
  | .select scheme host => ReplyFor records scheme host (fun route => .target route.target) v
  | .selectUri uri =>
    match Destination.ofUri uri with
    | .error e => v = .error e
    | .ok d => ReplyFor records d.scheme d.host (fun route => .target route.target) v
  | .connectFailed _ _ => v = .ok .noted

end

section
variable {records : List ServerRecord} {v v' : Except Error Reply}

theorem ReplyFor.unique {scheme host : String} {f : Route → Reply}
    (h : ReplyFor records scheme host f v) (h' : ReplyFor records scheme host f v') : v = v' := by
  unfold ReplyFor at h h'
  by_cases hempty : scheme = "" ∨ host = ""
  · rw [if_pos hempty] at h h'
    rw [h, h']
  · rw [if_neg hempty] at h h'
    obtain ⟨a, ha, rfl⟩ := h
    obtain ⟨b, hb, rfl⟩ := h'
    rw [ha.unique hb]

/-- The records and the request leave no choice. -/
theorem RepliesTo.unique {q : Request} (h : RepliesTo records q v) (h' : RepliesTo records q v') :
    v = v' := by
  cases q with
  | resolve scheme host => exact ReplyFor.unique h h'
  | select scheme host => exact ReplyFor.unique h h'
  | selectUri uri =>
    simp only [RepliesTo] at h h'
    cases hd : Destination.ofUri uri with
    | error e =>
      rw [hd] at h h'
      exact h.trans (Eq.symm h')
    | ok d =>
      rw [hd] at h h'
      exact ReplyFor.unique h h'
  | connectFailed uri cause => exact h.trans (Eq.symm h')

theorem replyFor_of {rules : List Rule} (h : (compileRules records).1 = .ok rules)
    (scheme host : String) (f : Route → Reply) : ReplyFor records scheme host f
      ((Destination.of scheme host).map fun d => f (.among rules d)) := by
  unfold ReplyFor
  cases hd : Destination.of scheme host with
  | error e =>
    obtain ⟨hempty, rfl⟩ := Destination.of_eq_error_iff.mp hd
    rw [if_pos hempty]
    rfl
  | ok d =>
    obtain ⟨rfl, rfl⟩ := Destination.of_eq_ok_iff.mp hd
    rw [if_neg (fun hempty => hempty.elim d.scheme_ne d.host_ne)]
    exact ⟨_, among_firstServing h d, rfl⟩

theorem repliesTo_replyBy {rules : List Rule} (h : (compileRules records).1 = .ok rules)
    (q : Request) : RepliesTo records q (replyBy rules q) := by
  cases q with
  | resolve scheme host => exact replyFor_of h scheme host .route
  | select scheme host => exact replyFor_of h scheme host fun route => .target route.target
  | selectUri uri =>
    simp only [RepliesTo, replyBy]
    cases hd : Destination.ofUri uri with
    | error e => rfl
    | ok d =>
      have hof := Destination.of_eq_ok_iff.mpr (⟨rfl, rfl⟩ : d.scheme = d.scheme ∧ d.host = d.host)
      have := replyFor_of h d.scheme d.host fun route => .target route.target
      rwa [hof] at this
  | connectFailed uri cause => rfl

end

/-! ## Top theorem -/

/-- **Routes of a run.**  Whatever a router made from records is asked, and in whatever order, it
gives each request the reply that the records have for it, and there is one such reply only; a
request for a route is refused just where its scheme or its host is empty, and a target is direct
just where no rule is named. -/
theorem run_replies_firstServing {records : List ServerRecord} {rules : List Rule}
    (h : (compileRules records).1 = .ok rules) :
    (∀ (print : Bool) (exclusions : List String) (requests : List Request),
      List.Forall₂ (fun q a => RepliesTo records q a.value) requests
        (((Router.new rules).withReporting print exclusions).run requests)) ∧
    (∀ q v v', RepliesTo records q v → RepliesTo records q v' → v = v') ∧
    (∀ scheme host, (∃ e, RepliesTo records (.resolve scheme host) (.error e)) ↔
      scheme = "" ∨ host = "") ∧
    ∀ route : Route, route.target = .direct ↔ route.rule? = none := by
  refine ⟨fun print exclusions requests => ?_, fun q v v' => RepliesTo.unique,
    fun scheme host => ?_, fun route => ?_⟩
  · refine (Router.run_replies requests (Router.agrees_new rules print exclusions)).imp ?_
    intro q a ha
    rw [ha]
    exact repliesTo_replyBy h q
  · by_cases hempty : scheme = "" ∨ host = "" <;> simp [RepliesTo, ReplyFor, hempty]
  · cases route <;> simp [Route.target, Route.rule?]

/-- Two proxies, the second of which takes what the first leaves. -/
theorem run_replies_firstServing_two :
    let first : ServerRecord :=
      { ServerRecord.new "first" 3128 with notForHosts := ["a"] }
    let second : ServerRecord :=
      { ServerRecord.new "second" 3129 with forHosts := ["a", ".b"] }
    let rules : List Rule := [⟨defaultProtocols, .allBut [.suffix "a"], ⟨.http, "first", 3128⟩⟩,
      ⟨defaultProtocols, .only [.suffix "a", .suffix ".b"], ⟨.http, "second", 3129⟩⟩]
    (compileRules [first, second]).1 = .ok rules ∧
      List.Forall₂ (fun q a => RepliesTo [first, second] q a.value)
        [.resolve "http" "x.a", .resolve "http" "", .select "ftp" "b", .resolve "http" "x.a"]
        (((Router.new rules).withReporting true ["b"]).run
          [.resolve "http" "x.a", .resolve "http" "", .select "ftp" "b", .resolve "http" "x.a"]) :=
  ⟨by decide, (run_replies_firstServing (by decide)).1 _ _ _⟩

end ProxyRouting
