import ProxyRouting.Proofs.Environment
import ProxyRouting.Proofs.Bypass

/-!
# Variables as records

Without servers in the settings a gateway comes from the variables of the default protocols.  It is
the very gateway of settings that list a record for each of them: one whose host, port and
credentials are those of the variable (`recordFor`), for each variable that a rule can be made of.

    ofSettings env settings = (.ok (some g), _) → writtenOut env ≠ [] →
      ofSettings env' { settings with servers := writtenOut env } = (.ok (some g), _)

A variable that is no good is as one that is not there, and where there are servers no variable
matters.
-/

namespace ProxyRouting.Gateway

open ProxyVariable (nameFor)

/-- What the variable of a protocol says, if a rule can be made of it. -/
def accepted? (env : Environment) (protocol : String) : Option ProxyVariable :=
  (ProxyVariable.read env protocol).1.filter fun v => (recordFor protocol v).compile.isOk

/-- The servers that the environment stands for, in the order of the default protocols. -/
def writtenOut (env : Environment) : List ServerRecord :=
  defaultProtocols.filterMap fun protocol => (accepted? env protocol).map (recordFor protocol)

/-! ## Lemmas -/

theorem variableSource?_eq (env : Environment) (protocol : String) :
    variableSource? env protocol = (accepted? env protocol).map (recordFor protocol) := by
  unfold variableSource? accepted?
  cases hv : (ProxyVariable.read env protocol).1 with
  | none => rfl
  | some v =>
    obtain rfl := (ProxyVariable.read_ok hv).1
    have hcompile := compile_recordFor v
    cases hc : v.toServer.compile with
    | error fault => simp [hc, hcompile, Except.isOk, Except.toBool]
    | ok rule => simp [hc, hcompile, Except.isOk, Except.toBool]

theorem sources_environment (env : Environment) {settings : Settings}
    (hservers : settings.servers = []) : sources env settings = writtenOut env := by
  rw [sources, hservers]
  exact congrArg defaultProtocols.filterMap (funext (variableSource?_eq env))

theorem sources_servers (env : Environment) {settings : Settings}
    (hservers : settings.servers ≠ []) : sources env settings = settings.servers :=
  if_neg (by simpa using hservers)

/-- Rules and credentials are settled by the records. -/
theorem IsDraftOf.ofDraft_eq {records : List ServerRecord} {draft draft' : Draft}
    (h : IsDraftOf records draft) (h' : IsDraftOf records draft') (settings : Settings) :
    (ofDraft settings draft).1 = (ofDraft settings draft').1 := by
  have hrules : draft.rules = draft'.rules := Except.ok.inj (h.rules.symm.trans h'.rules)
  unfold ofDraft
  rw [hrules, h.credentials, h'.credentials]

/-- Where the sources compile there is a gateway, and it is theirs. -/
theorem ofSettings_of_isDraftOf {env : Environment} {settings : Settings} {draft : Draft}
    (henabled : settings.enabled = true) (h : IsDraftOf (sources env settings) draft) :
    ∃ events, ofSettings env settings = (.ok (some (ofDraft settings draft).1), events) := by
  suffices ∃ g events, ofSettings env settings = (.ok (some g), events) by
    obtain ⟨g, events, hg⟩ := this
    obtain ⟨draft', hdraft', rfl⟩ := ofSettings_ok hg
    exact ⟨events, by rw [hg, h.ofDraft_eq hdraft']⟩
  by_cases hservers : settings.servers = []
  · exact ofSettings_environment env henabled hservers
  · rw [sources_servers env hservers] at h
    have hempty : settings.servers.isEmpty = false := by simpa using hservers
    unfold ofSettings ofServers
    simp only [henabled, hempty, h.rules, Except.map]
    exact ⟨_, _, rfl⟩

/-- A variable that is no good might as well be missing. -/
theorem writtenOut_without {env : Environment} {protocol : String}
    (hp : protocol ∈ defaultProtocols) (hnone : accepted? env protocol = none) :
    writtenOut (env.without (nameFor protocol)) = writtenOut env := by
  refine List.filterMap_congr fun other hother => ?_
  by_cases hne : other = protocol
  · subst hne
    rw [hnone, accepted?, ProxyVariable.read_without]
    rfl
  · rw [accepted?, ProxyVariable.read_without_of_ne env hp hother hne]
    rfl

/-! ## Top theorem -/

/-- **Variables are servers written elsewhere.**  Without servers there is always a gateway.  It is
the one that the records for the accepted variables give when they are listed as servers, in
whatever environment, or an empty one where no variable is accepted; and it is the same without a
variable that is not accepted.  With servers the environment makes no difference. -/
theorem ofSettings_writtenOut {settings : Settings} (henabled : settings.enabled = true) :
    (settings.servers = [] → ∀ env, ∃ g events,
      ofSettings env settings = (.ok (some g), events) ∧
        (writtenOut env ≠ [] → ∀ env', ∃ events',
          ofSettings env' { settings with servers := writtenOut env } = (.ok (some g), events')) ∧
        (writtenOut env = [] → g.router.rules = [] ∧ g.credentials = none) ∧
        ∀ protocol ∈ defaultProtocols, accepted? env protocol = none → ∃ events',
          ofSettings (env.without (nameFor protocol)) settings = (.ok (some g), events')) ∧
    (settings.servers ≠ [] → ∀ env env', ofSettings env settings = ofSettings env' settings) := by
  constructor
  · intro hservers env
    have hsources := sources_environment env hservers
    obtain ⟨g, events, hg⟩ := ofSettings_environment env henabled hservers
    obtain ⟨draft, hdraft, rfl⟩ := ofSettings_ok hg
    rw [hsources] at hdraft
    refine ⟨_, events, hg, fun hne env' => ?_, fun hempty => ?_, fun protocol hp hnone => ?_⟩
    · let listed : Settings := { settings with servers := writtenOut env }
      have hlisted : sources env' listed = writtenOut env := sources_servers env' hne
      rw [← hlisted] at hdraft
      have henabled' : listed.enabled = true := henabled
      exact ofSettings_of_isDraftOf henabled' hdraft
    · rw [hempty] at hdraft
      have hrules : draft.rules = [] := (Except.ok.inj hdraft.rules).symm
      refine ⟨hrules, ?_⟩
      unfold ofDraft
      rw [hdraft.credentials]
      rfl
    · refine ofSettings_of_isDraftOf henabled ?_
      rw [sources_environment _ hservers, writtenOut_without hp hnone]
      exact hdraft
  · intro hservers env env'
    have hempty : settings.servers.isEmpty = false := by simpa using hservers
    unfold ofSettings
    rw [hempty]
    rfl

/-- One variable with credentials, one without a port and one for which nothing is set. -/
theorem ofSettings_writtenOut_rejected :
    let env : Environment := .ofList [("http_proxy", "socks5://u:p@proxy:1080"),
      ("HTTPS_PROXY", "socks5://secure"), ("no_proxy", "localhost")]
    let record : ServerRecord := ⟨.socks, some "proxy", some 1080, some "u", some "p", [],
      ["localhost"], ["http"]⟩
    Settings.default.enabled = true ∧ writtenOut env = [record] ∧ accepted? env "https" = none ∧
      ∃ g events events' events'', ofSettings env .default = (.ok (some g), events) ∧
        ofSettings .empty { Settings.default with servers := [record] } = (.ok (some g), events') ∧
        ofSettings (env.without "https_proxy") .default = (.ok (some g), events'') := by
  intro env record
  have hwritten : writtenOut env = [record] := by decide +kernel
  have hnone : accepted? env "https" = none := by decide +kernel
  obtain ⟨g, events, hg, hlisted, -, hwithout⟩ :=
    (@ofSettings_writtenOut .default rfl).1 rfl env
  rw [hwritten] at hlisted
  obtain ⟨events', hg'⟩ := hlisted (List.cons_ne_nil _ _) .empty
  obtain ⟨events'', hg''⟩ := hwithout "https" (by decide) hnone
  exact ⟨rfl, hwritten, hnone, g, events, events', events'', hg, hg', hg''⟩

end ProxyRouting.Gateway
