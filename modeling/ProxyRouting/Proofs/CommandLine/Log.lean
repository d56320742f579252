import ProxyRouting.CommandLine.Basic
import ProxyRouting.CommandLine.Writer
import ProxyRouting.Proofs.Routing

/-!
# Skipped URLs in the log

Setting up skips no URL, and of what is told for a URL nothing but that it is skipped is as important
as a warning (`Routine`).  So a log without anything below warnings has the skipped URLs and what was
told before them (`Routine.filter_shown`); it is the log that is written where no directives are
given (`filter_timeless`).

    skips (Gateway.ofSettings env settings).2 = []
-/

namespace ProxyRouting.CommandLine

def isSkip : Event → Bool
  | .urlSkipped .. => true
  | _ => false

/-- The warnings that URLs are skipped. -/
def skips (events : List Event) : List Event :=
  events.filter isSkip

theorem skips_append (events more : List Event) :
    skips (events ++ more) = skips events ++ skips more :=
  List.filter_append ..

theorem skips_append_right (events : List Event) {more : List Event} (h : skips more = []) :
    skips (events ++ more) = skips events := by
  rw [skips_append, h, List.append_nil]

/-! ## Setting up -/

theorem skips_compileFrom (records : List ServerRecord) :
    ∀ index, skips (compileFrom index records).2 = [] := by
  induction records with
  | nil => exact fun _ => rfl
  | cons r records ih =>
    intro index
    rw [compileFrom]
    cases r.compile with
    | error fault => rfl
    | ok rule => exact ih (index + 1)

theorem skips_read (env : Environment) (protocol : String) :
    skips (ProxyVariable.read env protocol).2 = [] := by
  unfold ProxyVariable.read ProxyVariable.parse
  split
  · rfl
  · rfl
  · split <;> rfl

theorem skips_addVariable (draft : Gateway.Draft) (v : ProxyVariable) :
    skips (Gateway.addVariable draft v).events = skips draft.events := by
  have htold := skips_compileFrom [v.toServer] 0
  unfold Gateway.addVariable compileRules
  generalize compileFrom 0 [v.toServer] = compiled at htold ⊢
  obtain ⟨rules, events⟩ := compiled
  have hused : skips (.variableUsed v :: events) = [] := htold
  cases rules with
  | ok rules => exact skips_append_right draft.events hused
  | error e =>
    have hignored : skips [.variableIgnored v e] = [] := rfl
    exact (skips_append_right _ hignored).trans (skips_append_right draft.events hused)

theorem skips_addProtocol (env : Environment) (draft : Gateway.Draft) (protocol : String) :
    skips (Gateway.addProtocol env draft protocol).events = skips draft.events := by
  have hread := skips_read env protocol
  unfold Gateway.addProtocol
  generalize ProxyVariable.read env protocol = asked at hread ⊢
  obtain ⟨v?, events⟩ := asked
  have htold := skips_append_right draft.events hread
  cases v? with
  | some v => exact (skips_addVariable _ v).trans htold
  | none =>
    have hmissing : skips [.variableMissing protocol] = [] := rfl
    exact (skips_append_right _ hmissing).trans htold

theorem skips_ofEnvironment (env : Environment) : skips (Gateway.ofEnvironment env).events = [] := by
  have hfold : ∀ (protocols : List String) (draft : Gateway.Draft),
      skips (protocols.foldl (Gateway.addProtocol env) draft).events = skips draft.events := by
    intro protocols
    induction protocols with
    | nil => exact fun _ => rfl
    | cons protocol protocols ih => exact fun draft => (ih _).trans (skips_addProtocol env draft _)
  exact hfold defaultProtocols ⟨[], .empty, []⟩

theorem skips_ofServers (servers : List ServerRecord) : skips (Gateway.ofServers servers).2 = [] :=
  skips_compileFrom servers 0

/-- No URL is skipped before there is a gateway to route it. -/
theorem skips_ofSettings (env : Environment) (settings : Settings) :
    skips (Gateway.ofSettings env settings).2 = [] := by
  have hserved := skips_ofServers settings.servers
  have hconfigured : ∀ draft, skips [(Gateway.ofDraft settings draft).2] = [] := fun _ => rfl
  unfold Gateway.ofSettings
  cases settings.enabled with
  | false => rfl
  | true =>
    simp only [Bool.not_true, Bool.false_eq_true, if_false]
    cases settings.servers.isEmpty with
    | true =>
      simp only [if_true]
      exact (skips_append_right _ (hconfigured _)).trans (skips_ofEnvironment env)
    | false =>
      simp only [Bool.false_eq_true, if_false]
      generalize Gateway.ofServers settings.servers = served at hserved ⊢
      obtain ⟨result, events⟩ := served
      cases result with
      | error e => exact hserved
      | ok draft => exact (skips_append_right events (hconfigured draft)).trans hserved

/-! ## Routing -/

/-- Nothing is told that is as important as a warning. -/
def Quiet (events : List Event) : Prop :=
  ∀ e ∈ events, e.level.rank < Level.warn.rank

/-- The same but for URLs that are skipped. -/
def Routine (events : List Event) : Prop :=
  ∀ e ∈ events, isSkip e = true ∨ e.level.rank < Level.warn.rank

theorem Quiet.append {events more : List Event} (h : Quiet events) (hmore : Quiet more) :
    Quiet (events ++ more) :=
  List.forall_mem_append.mpr ⟨h, hmore⟩

theorem Quiet.routine {events : List Event} (h : Quiet events) : Routine events :=
  fun e he => .inr (h e he)

theorem Quiet.skips_eq {events : List Event} (h : Quiet events) : skips events = [] := by
  refine List.filter_eq_nil_iff.mpr fun e he hskip => ?_
  have hlow := h e he
  cases e with
  | urlSkipped url error => exact absurd hlow (Nat.lt_irrefl Level.warn.rank)
  | _ => cases hskip

theorem Routine.append {events more : List Event} (h : Routine events) (hmore : Routine more) :
    Routine (events ++ more) :=
  List.forall_mem_append.mpr ⟨h, hmore⟩

/-- Where nothing below warnings is let through, only the skipped URLs can be. -/
theorem Routine.filter_shown {events : List Event} (h : Routine events) {f : LogFilter}
    (hf : ∀ e : Event, f e.shown = true → Level.warn.rank ≤ e.level.rank) :
    (events.map Event.shown).filter f = ((skips events).map Event.shown).filter f := by
  have hcongr : events.filter (f ∘ Event.shown) =
      events.filter fun e => (f ∘ Event.shown) e && isSkip e := by
    refine List.filter_congr fun e he => ?_
    cases hshown : (f ∘ Event.shown) e with
    | false => rfl
    | true =>
      have hwarn := hf e hshown
      obtain hskip | hlow := h e he
      · rw [hskip, Bool.true_and]
      · omega
  rw [List.filter_map, List.filter_map, skips, List.filter_filter, hcongr]

theorem quiet_report (r : Router) (d : Destination) (route : Route) :
    Quiet (r.report d route) := by
  have hlow : Level.info.rank < Level.warn.rank := by decide
  unfold Router.report
  split
  · exact List.forall_mem_singleton.mpr hlow
  · exact List.forall_mem_nil _

theorem quiet_resolve (r : Router) (d : Destination) : Quiet (r.resolve d).events := by
  have hlow : Level.debug.rank < Level.warn.rank := by decide
  cases hd : r.decided.lookup d with
  | some route =>
    rw [Router.resolve_hit hd]
    exact quiet_report r d route
  | none =>
    rw [Router.resolve_miss hd]
    exact List.forall_mem_cons.mpr ⟨hlow, quiet_report r d _⟩

theorem quiet_authorization (g : Gateway) (t : Target) : Quiet (authorization g t).2 := by
  have hlow : Level.trace.rank < Level.warn.rank := by decide
  unfold authorization
  cases t.endpoint? with
  | none => exact List.forall_mem_nil _
  | some e =>
    cases g.credentials with
    | none => exact List.forall_mem_nil _
    | some store =>
      refine List.forall_mem_singleton.mpr ?_
      cases hc : store.find? (hostPort e.host e.port) with
      | none =>
        simp only [CredentialStore.lookup, hc]
        exact hlow
      | some c =>
        simp only [CredentialStore.lookup, hc]
        exact hlow

/-! ## The log without directives -/

/-- The parts of the program that tell something. -/
def origins : List String :=
  ["netproxy", "netproxy::proxy::rules", "netproxy::proxy::router", "netproxy::proxy::credentials",
    "netproxy::proxy::env", "netproxy::proxy::setup"]

theorem origin_mem (e : Event) : e.origin ∈ origins := by
  cases e <;> simp [Event.origin, origins]

theorem isFor_program (e : Event) (threshold : Option Level) :
    Directive.isFor ⟨"netproxy".toList, threshold⟩ e.shown = true := by
  have hall : ∀ origin ∈ origins, "netproxy".toList.isPrefixOf origin.toList = true := by
    simp [origins]
  exact hall _ (origin_mem e)

/-- Without directives the warnings and errors are written. -/
theorem filter_timeless {env : Environment} (h : env "RUST_LOG" = none) (e : Event) :
    LogWriter.timeless.filter env e.shown = true ↔ Level.warn.rank ≤ e.level.rank := by
  have hread : (Directive.texts "netproxy=warn").filterMap Directive.ofText? =
      [⟨"netproxy".toList, some .warn⟩] := by
    decide
  have hfilter : LogWriter.timeless.filter env =
      Directive.together [⟨"netproxy".toList, some .warn⟩] := by
    rw [LogWriter.filter, h, Option.bind_none, Option.getD_none, ← hread]
    rfl
  have hfor : [(⟨"netproxy".toList, some .warn⟩ : Directive)].filter (·.isFor e.shown) =
      [⟨"netproxy".toList, some .warn⟩] :=
    List.filter_cons_of_pos (isFor_program e _)
  rw [hfilter, Directive.together, List.isEmpty_cons, if_neg Bool.false_ne_true, hfor]
  exact decide_eq_true_iff

end ProxyRouting.CommandLine
