import ProxyRouting.Proofs.Routing
import ProxyRouting.Proofs.Secrecy.Masked

/-!
# Gateways that look alike

What is seen of a gateway (`View`) are the texts of its rules, its answers to any requests with all
that is told of them, its own text before and after, and what the store has on any proxy, but not
the password.  Gateways that are masked alike have the same view.

Settings that are masked alike give such gateways, or fail alike.  The reason is a step lemma:
drafts that are masked alike stay so with every variable that is added to both, and what is told of
it is the same.

    d.Alike d' → v.masked = v'.masked → (addVariable d v).Alike (addVariable d' v')
-/

namespace ProxyRouting

/-- What masking does not change is the same where the masked values are. -/
theorem eq_of_masked_eq {α β : Type} {mask : α → α} {a b : α} (f : α → β)
    (h : mask a = mask b) (hf : ∀ a, f (mask a) = f a) : f a = f b := by
  rw [← hf a, h, hf b]

/-! ## Events -/

namespace Event

theorem shown_variableUsed_masked (v : ProxyVariable) :
    (variableUsed v.masked).shown = (variableUsed v).shown := by
  have hmessage : (variableUsed v.masked).message = (variableUsed v).message :=
    congrArg (fun text => "Configuring proxy for " ++ fromVariable v ++ text) v.inspect_masked
  rw [shown, hmessage]
  rfl

theorem shown_variableIgnored_masked (v : ProxyVariable) (e : Error) :
    (variableIgnored v.masked e).shown = (variableIgnored v e).shown :=
  rfl

end Event

/-! ## What is seen -/

namespace CredentialStore

/-- The stars for the password are found in its place, and told of alike. -/
theorem lookup_masked (s : CredentialStore) (host : String) (port : UInt16) :
    (s.masked.lookup host port).1 = (s.lookup host port).1.map Credential.masked ∧
      (s.masked.lookup host port).2.shown = (s.lookup host port).2.shown := by
  cases hc : s.find? (hostPort host port) with
  | none => simp only [lookup, find?_masked, hc, Option.map_none, and_self]
  | some c =>
    simp only [lookup, find?_masked, hc, Option.map_some, true_and]
    rfl

/-- What is seen of a credential that is looked for: its username and its texts, if there is one,
and what is told of that. -/
def seen (s : CredentialStore) (host : String) (port : UInt16) :
    Option (String × String × String) × Event.Shown :=
  ((s.lookup host port).1.map fun c => (c.username, c.text, c.inspect),
    (s.lookup host port).2.shown)

theorem seen_masked (s : CredentialStore) (host : String) (port : UInt16) :
    s.masked.seen host port = s.seen host port := by
  obtain ⟨hfound, htold⟩ := s.lookup_masked host port
  unfold seen
  rw [hfound, htold, Option.map_map]
  rfl

end CredentialStore

namespace Gateway

def masked (g : Gateway) : Gateway :=
  { g with credentials := g.credentials.map CredentialStore.masked }

theorem inspect_masked (g : Gateway) : g.masked.inspect = g.inspect := by
  have hsize : (fun s : CredentialStore => toString s.masked.size) = fun s => toString s.size :=
    funext fun s => congrArg toString s.size_masked
  simp only [inspect, masked, Option.map_map, Function.comp_def, hsize]

/-- What is seen of a gateway that is asked some requests and then for the credential of a proxy. -/
structure View where
  rules : List String
  /-- Each reply, with the number of decisions after it and what was told. -/
  replies : List (Except Error Reply × Nat × List Event.Shown)
  before : String
  after : String
  credential? : Option (Option (String × String × String) × Event.Shown)

def view (g : Gateway) (requests : List Request) (host : String) (port : UInt16) : View where
  rules := g.router.rules.map Rule.text
  replies := (g.router.run requests).map fun a =>
    (a.value, a.router.decidedCount, a.events.map Event.shown)
  before := g.inspect
  after := { g with router := g.router.after requests }.inspect
  credential? := g.credentials.map fun s => s.seen host port

theorem view_masked (requests : List Request) (host : String) (port : UInt16) (g : Gateway) :
    g.masked.view requests host port = g.view requests host port := by
  have hafter := inspect_masked { g with router := g.router.after requests }
  have hseen : (g.credentials.map CredentialStore.masked).map (·.seen host port) =
      g.credentials.map (·.seen host port) := by
    simp only [Option.map_map, Function.comp_def, CredentialStore.seen_masked]
  unfold view
  rw [g.inspect_masked]
  exact congr (congrArg (View.mk _ _ _) hafter) hseen

/-! ## Setting up -/

/-- Nothing but the text of passwords tells the drafts apart. -/
structure Draft.Alike (d d' : Draft) : Prop where
  rules : d.rules = d'.rules
  credentials : d.credentials.masked = d'.credentials.masked
  events : d.events.map Event.shown = d'.events.map Event.shown

theorem Draft.Alike.told {d d' : Draft} (h : d.Alike d') {events events' : List Event}
    (hevents : events.map Event.shown = events'.map Event.shown) :
    Draft.Alike { d with events := d.events ++ events } { d' with events := d'.events ++ events' } :=
  ⟨h.rules, h.credentials, by rw [List.map_append, List.map_append, h.events, hevents]⟩

/-- One variable added to both. -/
theorem addVariable_alike {d d' : Draft} (h : d.Alike d') {v v' : ProxyVariable}
    (hv : v.masked = v'.masked) : (addVariable d v).Alike (addVariable d' v') := by
  have hcompile := eq_of_masked_eq (fun v : ProxyVariable => compileRules [v.toServer]) hv
    fun v => by rw [v.toServer_masked]
  have hused := eq_of_masked_eq (fun v => (Event.variableUsed v).shown) hv
    Event.shown_variableUsed_masked
  have hregister : (registerVariable d.credentials v).masked =
      (registerVariable d'.credentials v').masked := by
    rw [← registerVariable_masked, ← registerVariable_masked, h.credentials, hv]
  unfold addVariable
  rw [hcompile]
  obtain ⟨result, events⟩ := compileRules [v'.toServer]
  cases result with
  | ok rules =>
    refine ⟨congrArg (· ++ rules) h.rules, hregister, ?_⟩
    simp only [List.map_append, List.map_cons, h.events, hused]
  | error e =>
    have hignored := eq_of_masked_eq (fun v => (Event.variableIgnored v e).shown) hv fun v =>
      Event.shown_variableIgnored_masked v e
    refine ⟨h.rules, h.credentials, ?_⟩
    simp only [List.map_append, List.map_cons, h.events, hused, hignored]

/-- What the environments say for a protocol, and tell of it, differs in the text of a password at
the most. -/
def AsksAlike (env env' : Environment) (protocol : String) : Prop :=
  (ProxyVariable.read env protocol).1.map ProxyVariable.masked =
      (ProxyVariable.read env' protocol).1.map ProxyVariable.masked ∧
    (ProxyVariable.read env protocol).2.map Event.shown =
      (ProxyVariable.read env' protocol).2.map Event.shown

theorem AsksAlike.refl (env : Environment) (protocol : String) : AsksAlike env env protocol :=
  ⟨rfl, rfl⟩

theorem addProtocol_alike {d d' : Draft} (h : d.Alike d') {env env' : Environment}
    {protocol : String} (hread : AsksAlike env env' protocol) :
    (addProtocol env d protocol).Alike (addProtocol env' d' protocol) := by
  obtain ⟨hv, hevents⟩ := hread
  have htold := h.told hevents
  unfold addProtocol
  cases hread : (ProxyVariable.read env protocol).1 with
  | none =>
    rw [hread, Option.map_none, eq_comm, Option.map_eq_none_iff] at hv
    simp only [hread, hv]
    exact htold.told rfl
  | some v =>
    rw [hread, Option.map_some, eq_comm, Option.map_eq_some_iff] at hv
    obtain ⟨v', hread', hmasked⟩ := hv
    simp only [hread, hread']
    exact addVariable_alike htold hmasked.symm

theorem foldl_addProtocol_alike {env env' : Environment} (protocols : List String)
    (hread : ∀ protocol ∈ protocols, AsksAlike env env' protocol) :
    ∀ {d d' : Draft}, d.Alike d' →
      (protocols.foldl (addProtocol env) d).Alike (protocols.foldl (addProtocol env') d') := by
  induction protocols with
  | nil => exact fun h => h
  | cons protocol protocols ih =>
    intro d d' h
    obtain ⟨hfirst, hothers⟩ := List.forall_mem_cons.mp hread
    exact ih hothers (addProtocol_alike h hfirst)

theorem ofEnvironment_alike {env env' : Environment}
    (hread : ∀ protocol ∈ defaultProtocols, AsksAlike env env' protocol) :
    (ofEnvironment env).Alike (ofEnvironment env') :=
  foldl_addProtocol_alike defaultProtocols hread ⟨rfl, rfl, rfl⟩

/-! ## Settings -/

/-- The same error, no gateway, or gateways that are masked alike. -/
inductive Alike : Except Error (Option Gateway) → Except Error (Option Gateway) → Prop
  | error (e : Error) : Alike (.error e) (.error e)
  | none : Alike (.ok none) (.ok none)
  | some {g g' : Gateway} (h : g.masked = g'.masked) : Alike (.ok (some g)) (.ok (some g'))

theorem ofDraft_alike {d d' : Draft} (h : d.Alike d') {s s' : Settings}
    (hs : s.masked = s'.masked) :
    (ofDraft s d).1.masked = (ofDraft s' d').1.masked ∧ (ofDraft s d).2 = (ofDraft s' d').2 := by
  have hprint := eq_of_masked_eq Settings.alwaysPrint hs fun _ => rfl
  have hexclusions := eq_of_masked_eq Settings.printExclusions hs fun _ => rfl
  have hempty := eq_of_masked_eq _ h.credentials CredentialStore.isEmpty_masked
  have hsize := eq_of_masked_eq _ h.credentials CredentialStore.size_masked
  unfold ofDraft masked
  rw [h.rules, hprint, hexclusions, hempty, hsize]
  cases d'.credentials.isEmpty with
  | true => exact ⟨rfl, rfl⟩
  | false => simp only [Bool.false_eq_true, if_false, Option.map_some, h.credentials, and_self]

/-- Servers that are masked alike have the same rules, or fail alike. -/
theorem ofServers_alike {servers servers' : List ServerRecord}
    (h : servers.map ServerRecord.masked = servers'.map ServerRecord.masked) :
    (ofServers servers).2 = (ofServers servers').2 ∧
      ((∃ e, (ofServers servers).1 = .error e ∧ (ofServers servers').1 = .error e) ∨
        ∃ d d', (ofServers servers).1 = .ok d ∧ (ofServers servers').1 = .ok d' ∧ d.Alike d') := by
  have hcompile : compileRules servers = compileRules servers' :=
    eq_of_masked_eq compileRules h fun servers => compileFrom_masked servers 0
  have hregister : (servers.foldl register .empty).masked =
      (servers'.foldl register .empty).masked := by
    have hempty : CredentialStore.masked .empty = .empty := rfl
    rw [← foldl_register_masked, ← foldl_register_masked, h, hempty]
  unfold ofServers
  rw [hcompile]
  obtain ⟨result, events⟩ := compileRules servers'
  refine ⟨rfl, ?_⟩
  cases result with
  | error e => exact .inl ⟨e, rfl, rfl⟩
  | ok rules => exact .inr ⟨_, _, rfl, rfl, ⟨rfl, hregister, rfl⟩⟩

/-- Where the settings are masked alike and the environments say alike, so are the gateways, and
what is told is the same. -/
theorem ofSettings_alike {env env' : Environment} {s s' : Settings} (hs : s.masked = s'.masked)
    (hread : ∀ protocol ∈ defaultProtocols, AsksAlike env env' protocol) :
    Alike (ofSettings env s).1 (ofSettings env' s').1 ∧
      (ofSettings env s).2.map Event.shown = (ofSettings env' s').2.map Event.shown := by
  have henabled := eq_of_masked_eq Settings.enabled hs fun _ => rfl
  have hservers : s.servers.map ServerRecord.masked = s'.servers.map ServerRecord.masked :=
    congrArg Settings.servers hs
  have hempty : s.servers.isEmpty = s'.servers.isEmpty :=
    eq_of_masked_eq List.isEmpty hservers fun _ => List.isEmpty_map
  unfold ofSettings
  rw [henabled, hempty]
  cases s'.enabled with
  | false => exact ⟨.none, rfl⟩
  | true =>
    simp only [Bool.not_true, Bool.false_eq_true, if_false]
    cases s'.servers.isEmpty with
    | true =>
      have hd := ofEnvironment_alike hread
      obtain ⟨hg, hevent⟩ := ofDraft_alike hd hs
      simp only [if_true, List.map_append, hd.events, hevent, and_true]
      exact .some hg
    | false =>
      simp only [Bool.false_eq_true, if_false]
      obtain ⟨hevents, ⟨e, he, he'⟩ | ⟨d, d', hd, hd', halike⟩⟩ := ofServers_alike hservers
      · simp only [he, he', hevents, and_true]
        exact .error e
      · obtain ⟨hg, hevent⟩ := ofDraft_alike halike hs
        simp only [hd, hd', hevents, hevent, and_true]
        exact .some hg

end Gateway

end ProxyRouting
