import ProxyRouting.Gateway
import ProxyRouting.Proofs.Routing

/-!
# Where the parts of a gateway come from

A gateway is made from records, its `sources`: the servers of the settings or, without those, a
record for each variable that a rule can be made of (`recordFor`).  Variables are compiled one by one,
without their credentials, which are registered apart; servers are compiled together, after all their
credentials were registered.  Either way rules and credentials are those of the sources, in their
order (`IsDraftOf`):

    ofSettings env settings = (.ok (some g), events) →
      ∃ draft, IsDraftOf (sources env settings) draft ∧ g = (ofDraft settings draft).1
-/

namespace ProxyRouting.Gateway

/-- The record that would say the same as a variable among the servers of settings. -/
def recordFor (protocol : String) (v : ProxyVariable) : ServerRecord where
  kind := v.kind
  host := some v.host
  port := some v.port
  username := v.username
  password := v.password
  forHosts := if v.noProxyHosts = [] then ["*"] else []
  notForHosts := v.noProxyHosts
  forProtocols := [protocol]

/-- The record that the environment has for a protocol, if a rule can be made of the variable. -/
def variableSource? (env : Environment) (protocol : String) : Option ServerRecord :=
  (ProxyVariable.read env protocol).1.bind fun v =>
    match v.toServer.compile with
    | .ok _ => some (recordFor v.forProtocol v)
    | .error _ => none

/-- The records that a gateway is made from. -/
def sources (env : Environment) (settings : Settings) : List ServerRecord :=
  if settings.servers.isEmpty then defaultProtocols.filterMap (variableSource? env)
  else settings.servers

/-- The draft has the rules of the records and their credentials, later ones in place of earlier
ones. -/
structure IsDraftOf (records : List ServerRecord) (draft : Draft) : Prop where
  rules : (compileRules records).1 = .ok draft.rules
  credentials : draft.credentials = records.foldl register .empty

/-! ## The environment -/

theorem IsDraftOf.append {records : List ServerRecord} {draft : Draft} {r : ServerRecord}
    {rule : Rule} (h : IsDraftOf records draft) (hr : r.compile = .ok rule)
    (events : List Event) : IsDraftOf (records ++ [r])
      ⟨draft.rules ++ [rule], register draft.credentials r, events⟩ := by
  refine ⟨compileRules_ok_iff.mpr ?_, ?_⟩
  · exact List.rel_append (compileRules_ok_iff.mp h.rules) (.cons hr .nil)
  · rw [List.foldl_append, h.credentials]
    rfl

theorem IsDraftOf.events {records : List ServerRecord} {draft : Draft}
    (h : IsDraftOf records draft) (events : List Event) :
    IsDraftOf records { draft with events := events } :=
  ⟨h.rules, h.credentials⟩

/-- Credentials make no difference to the rule of a record. -/
theorem compile_recordFor (v : ProxyVariable) :
    (recordFor v.forProtocol v).compile = v.toServer.compile := by
  unfold recordFor ProxyVariable.toServer
  cases v.noProxyHosts with
  | nil => rfl
  | cons entry entries => rfl

/-- A variable is registered for the key that its record would be registered for. -/
theorem registerVariable_eq (store : CredentialStore) (protocol : String) (v : ProxyVariable) :
    registerVariable store v = register store (recordFor protocol v) := by
  have hkey : (recordFor protocol v).hostPort? = some (hostPort v.host v.port) := rfl
  have huser : (recordFor protocol v).username = v.username := rfl
  have hpass : (recordFor protocol v).password = v.password := rfl
  unfold registerVariable register
  rw [hkey, huser, hpass]
  cases v.username with
  | none => rfl
  | some user =>
    cases v.password with
    | none => rfl
    | some pass => rfl

theorem addVariable_isDraftOf {records : List ServerRecord} {draft : Draft}
    (h : IsDraftOf records draft) (v : ProxyVariable) :
    IsDraftOf (records ++ (match v.toServer.compile with
      | .ok _ => some (recordFor v.forProtocol v)
      | .error _ => none).toList) (addVariable draft v) := by
  unfold addVariable
  rw [compileRules, compileFrom, registerVariable_eq _ v.forProtocol]
  cases hc : v.toServer.compile with
  | error fault =>
    rw [Option.toList_none, List.append_nil]
    exact h.events _
  | ok rule => exact h.append ((compile_recordFor v).trans hc) _

/-- One protocol adds its record, if there is one. -/
theorem addProtocol_isDraftOf (env : Environment) {records : List ServerRecord} {draft : Draft}
    (h : IsDraftOf records draft) (protocol : String) :
    IsDraftOf (records ++ (variableSource? env protocol).toList)
      (addProtocol env draft protocol) := by
  unfold addProtocol variableSource?
  cases hv : (ProxyVariable.read env protocol).1 with
  | none =>
    simp only [hv, Option.bind_none, Option.toList_none, List.append_nil]
    exact (h.events _).events _
  | some v =>
    simp only [hv, Option.bind_some]
    exact addVariable_isDraftOf (h.events _) v

theorem foldl_addProtocol_isDraftOf (env : Environment) (protocols : List String) :
    ∀ {records : List ServerRecord} {draft : Draft}, IsDraftOf records draft →
      IsDraftOf (records ++ protocols.filterMap (variableSource? env))
        (protocols.foldl (addProtocol env) draft) := by
  induction protocols with
  | nil =>
    intro records draft h
    simpa using h
  | cons p protocols ih =>
    intro records draft h
    have := ih (addProtocol_isDraftOf env h p)
    rw [List.append_assoc] at this
    cases hp : variableSource? env p with
    | none => simpa [hp, List.filterMap_cons] using this
    | some r => simpa [hp, List.filterMap_cons] using this

theorem ofEnvironment_isDraftOf (env : Environment) :
    IsDraftOf (defaultProtocols.filterMap (variableSource? env)) (ofEnvironment env) := by
  have hempty : IsDraftOf [] ⟨[], .empty, []⟩ := ⟨rfl, rfl⟩
  exact foldl_addProtocol_isDraftOf env defaultProtocols hempty

/-! ## Settings -/

theorem ofServers_ok {servers : List ServerRecord} {draft : Draft} {events : List Event}
    (h : ofServers servers = (.ok draft, events)) : IsDraftOf servers draft := by
  unfold ofServers at h
  cases hc : (compileRules servers).1 with
  | error e => simp [hc, Except.map] at h
  | ok rules =>
    simp only [hc, Except.map, Prod.mk.injEq, Except.ok.injEq] at h
    obtain ⟨rfl, -⟩ := h
    exact ⟨hc, rfl⟩

/-- A gateway is that of a draft of its sources. -/
theorem ofSettings_ok {env : Environment} {settings : Settings} {g : Gateway}
    {events : List Event} (h : ofSettings env settings = (.ok (some g), events)) :
    ∃ draft, IsDraftOf (sources env settings) draft ∧ g = (ofDraft settings draft).1 := by
  unfold ofSettings at h
  unfold sources
  by_cases henabled : settings.enabled = true
  · rw [henabled] at h
    by_cases hservers : settings.servers.isEmpty = true
    · simp only [hservers, Bool.not_true, Bool.false_eq_true, if_false, if_true, Prod.mk.injEq,
        Except.ok.injEq, Option.some.injEq] at h
      rw [if_pos hservers]
      exact ⟨ofEnvironment env, ofEnvironment_isDraftOf env, h.1.symm⟩
    · simp only [hservers, Bool.not_true, Bool.false_eq_true, if_false] at h
      rw [if_neg hservers]
      cases hd : ofServers settings.servers with
      | mk result told =>
        cases result with
        | error e => simp [hd] at h
        | ok draft =>
          simp only [hd, Prod.mk.injEq, Except.ok.injEq, Option.some.injEq] at h
          exact ⟨draft, ofServers_ok hd, h.1.symm⟩
  · simp [henabled] at h

end ProxyRouting.Gateway
