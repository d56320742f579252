import ProxyRouting.Proofs.Gateway
import ProxyRouting.Proofs.HostPattern.Glob
import ProxyRouting.Proofs.Settings.Entries

/-!
# What goes around the proxies of the environment

Without servers in the settings each of the default protocols has the proxy of its variable, and no
other rule is for the protocol.  All its requests go through that proxy but those to the hosts that
the list of hosts without proxy names; where it names none, the rule is for the pattern `*`, which
leaves out the hosts that have a line feed.

    v.Bypasses host → the target is direct
    ¬ v.Bypasses host → the target is the proxy of v                  (answer_select_variable)
-/

namespace ProxyRouting

/-! ## Patterns -/

theorem HostPattern.globs_star_iff (text : List Char) : Globs ['*'] text ↔ '\n' ∉ text := by
  constructor
  · rintro ⟨x, rest, rfl, hx, rfl⟩
    rwa [List.append_nil]
  · exact fun h => ⟨text, [], (List.append_nil text).symm, h, rfl⟩

/-- A star alone is for every host without a line feed. -/
theorem HostPattern.covers_star_iff (host : String) : Covers "*" host ↔ '\n' ∉ host.toList := by
  have hcompile : compile "*" =
      .ok (.expression "*" (Regex.betweenEnds (globRegex "*".toList))) := by
    decide +kernel
  have hmatch := isMatch_iff_globs (by decide) (by decide) hcompile host
  rw [show "*".toList = ['*'] from by decide, globs_star_iff] at hmatch
  rw [← hmatch]
  constructor
  · rintro ⟨p, hp, hhost⟩
    rw [hcompile] at hp
    cases hp
    exact hhost
  · exact fun hhost => ⟨_, hcompile, hhost⟩

/-! ## One variable -/

namespace ProxyVariable

/-- The hosts that a request reaches without the proxy: those of the list and, if it is empty, those
with a line feed. -/
def Bypasses (v : ProxyVariable) (host : String) : Prop :=
  (∃ text ∈ v.noProxyHosts, HostPattern.Covers text host) ∨
    (v.noProxyHosts = [] ∧ '\n' ∈ host.toList)

theorem serves_recordFor_iff (v : ProxyVariable) (protocol host : String) :
    (Gateway.recordFor protocol v).Serves protocol host ↔ ¬ v.Bypasses host := by
  unfold ServerRecord.Serves Bypasses Gateway.recordFor
  cases hlist : v.noProxyHosts with
  | nil => simp [HostPattern.covers_star_iff]
  | cons text texts => simp

theorem ofValue_ok {protocol : String} {value : List Char} {noProxy : Option String}
    {v : ProxyVariable} (h : ofValue protocol value noProxy = .ok v) :
    v.forProtocol = protocol ∧ v.noProxyHosts = (noProxy.map splitList).getD [] := by
  unfold ofValue at h
  simp only at h
  split at h
  · obtain ⟨url, -, h⟩ := bind_ok_iff.mp h
    split at h
    · obtain ⟨host, -, h⟩ := bind_ok_iff.mp h
      split at h
      · obtain ⟨port, -, h⟩ := bind_ok_iff.mp h
        cases h
        exact ⟨rfl, rfl⟩
      · cases h
    · cases h
  · cases h

theorem read_ok {env : Environment} {protocol : String} {v : ProxyVariable}
    (h : (read env protocol).1 = some v) :
    v.forProtocol = protocol ∧
      v.noProxyHosts = ((env.ignoringCase "no_proxy").map splitList).getD [] := by
  unfold read parse at h
  split at h
  · cases h
  · cases h
  · next c rest _ =>
    cases hvalue : ofValue protocol (c :: rest) (env.ignoringCase "no_proxy") with
    | error fault =>
      rw [hvalue] at h
      cases h
    | ok v' =>
      rw [hvalue] at h
      cases h
      exact ofValue_ok hvalue

/-- There are no hosts without proxy where `no_proxy` is missing, blank or made of empty entries. -/
theorem noProxyHosts_eq_nil_iff {env : Environment} {protocol : String} {v : ProxyVariable}
    (h : (read env protocol).1 = some v) :
    v.noProxyHosts = [] ↔ ∀ text, env.ignoringCase "no_proxy" = some text →
      ∀ entry ∈ text.toList.splitOn ',', ∀ c ∈ entry, Text.isBlank c = true := by
  rw [(read_ok h).2]
  cases env.ignoringCase "no_proxy" with
  | none => simp
  | some text => simpa using splitList_eq_nil_iff text

end ProxyVariable

/-! ## All variables -/

/-- Whatever was asked before, the rules alone tell the target. -/
theorem Router.answer_select_value (rules : List Rule) (alwaysPrint : Bool)
    (printExclusions : List String) (requests : List Request) (d : Destination) :
    ((((Router.new rules).withReporting alwaysPrint printExclusions).after requests).answer
      (.select d.scheme d.host)).value = .ok (.target (Route.among rules d).target) := by
  have hagrees := Router.agrees_new rules alwaysPrint printExclusions
  have hvalue := Router.answer_value (Router.after_agrees requests hagrees)
    (.select d.scheme d.host)
  rw [Router.after_rules] at hvalue
  have hd : Destination.of d.scheme d.host = .ok d := Destination.of_eq_ok_iff.mpr ⟨rfl, rfl⟩
  refine hvalue.trans ?_
  show (Destination.of d.scheme d.host).map _ = _
  rw [hd]
  rfl

/-- Where one record of a list serves a scheme and no other is for it, the route is its proxy or
direct. -/
theorem FirstServing.target_of_only {records : List ServerRecord} {r : ServerRecord} {e : Endpoint}
    {scheme host : String} {route : Route} (h : FirstServing records scheme host route)
    (hr : r ∈ records) (honly : ∀ r' ∈ records, scheme ∈ r'.forProtocols → r' = r)
    (he : r.IsAt e) :
    (r.Serves scheme host → route.target = .proxy e) ∧
      (¬ r.Serves scheme host → route.target = .direct) := by
  cases route with
  | direct =>
    exact ⟨fun hs => absurd hs (h r hr), fun _ => rfl⟩
  | via i e' =>
    obtain ⟨r', hget, he', hs, -⟩ := h
    obtain rfl := honly r' (List.mem_of_getElem? hget) hs.1
    exact ⟨fun _ => congrArg Target.proxy (he'.unique he), fun hn => absurd hs hn⟩

namespace Gateway

variable {env : Environment} {protocol : String} {v : ProxyVariable} {rule : Rule}

theorem variableSource?_ok {r : ServerRecord} (h : variableSource? env protocol = some r) :
    r.forProtocols = [protocol] := by
  obtain ⟨v, hv, h⟩ := Option.bind_eq_some_iff.mp h
  split at h
  · cases h
    show [v.forProtocol] = [protocol]
    rw [(ProxyVariable.read_ok hv).1]
  · cases h

/-- No two variables are for one protocol. -/
theorem source_unique {r : ServerRecord} (h : variableSource? env protocol = some r)
    {r' : ServerRecord} (hr' : r' ∈ defaultProtocols.filterMap (variableSource? env))
    (hfor : protocol ∈ r'.forProtocols) : r' = r := by
  obtain ⟨other, -, hother⟩ := List.mem_filterMap.mp hr'
  rw [variableSource?_ok hother, List.mem_singleton] at hfor
  rw [← hfor, h] at hother
  exact (Option.some.inj hother).symm

theorem ofSettings_environment (env : Environment) {settings : Settings}
    (henabled : settings.enabled = true) (hservers : settings.servers = []) :
    ∃ g events, ofSettings env settings = (.ok (some g), events) := by
  unfold ofSettings
  rw [henabled, hservers]
  exact ⟨_, _, rfl⟩

theorem protocol_ne (h : protocol ∈ defaultProtocols) : protocol ≠ "" := by
  rintro rfl
  exact absurd h (by decide)

/-- **Around the proxy of a variable.**  Whatever the router was asked before, a request for the
protocol gets the proxy of its variable, and a direct connection just where the list of hosts
without proxy names the host or, if the list is empty, the host has a line feed. -/
theorem answer_select_variable {settings : Settings} (henabled : settings.enabled = true)
    (hservers : settings.servers = []) (hprotocol : protocol ∈ defaultProtocols)
    (hv : (ProxyVariable.read env protocol).1 = some v) (hrule : v.toServer.compile = .ok rule) :
    v.noProxyHosts = ((env.ignoringCase "no_proxy").map splitList).getD [] ∧
      (v.noProxyHosts = [] ↔ ∀ text, env.ignoringCase "no_proxy" = some text →
        ∀ entry ∈ text.toList.splitOn ',', ∀ c ∈ entry, Text.isBlank c = true) ∧
      ∃ g events, ofSettings env settings = (.ok (some g), events) ∧
        ∀ (requests : List Request) (host : String), host ≠ "" →
          ∃ t, ((g.router.after requests).answer (.select protocol host)).value = .ok (.target t) ∧
            (v.Bypasses host → t = .direct) ∧
            (¬ v.Bypasses host → t = .proxy ⟨v.kind, v.host, v.port⟩) := by
  obtain ⟨hfor, hlist⟩ := ProxyVariable.read_ok hv
  refine ⟨hlist, ProxyVariable.noProxyHosts_eq_nil_iff hv, ?_⟩
  obtain ⟨g, events, hg⟩ := ofSettings_environment env henabled hservers
  refine ⟨g, events, hg, fun requests host hhost => ?_⟩
  obtain ⟨draft, hdraft, rfl⟩ := ofSettings_ok hg
  have hsource : variableSource? env protocol = some (recordFor protocol v) := by
    rw [variableSource?, hv, Option.bind_some, hrule, hfor]
  have hsources : sources env settings = defaultProtocols.filterMap (variableSource? env) := by
    rw [sources, hservers]
    rfl
  rw [hsources] at hdraft
  let d : Destination := ⟨protocol, host, protocol_ne hprotocol, hhost⟩
  refine ⟨(Route.among draft.rules d).target, Router.answer_select_value _ _ _ _ d, ?_⟩
  -- only one of the records is for the protocol
  have hmem := List.mem_filterMap.mpr ⟨protocol, hprotocol, hsource⟩
  have hat : (recordFor protocol v).IsAt ⟨v.kind, v.host, v.port⟩ := ⟨rfl, rfl, rfl⟩
  have htarget := (among_firstServing hdraft.rules d).target_of_only hmem
    (fun r' hr' hs => source_unique hsource hr' hs) hat
  have hserves := v.serves_recordFor_iff protocol host
  exact ⟨fun hb => htarget.2 fun hs => hserves.mp hs hb, fun hb => htarget.1 (hserves.mpr hb)⟩

/-- A host with a line feed goes around the proxy without any list; other hosts do not. -/
theorem answer_select_variable_lineFeed :
    let env : Environment := .ofList [("http_proxy", "socks5://proxy:1080")]
    let v : ProxyVariable := ⟨"http", "socks5", "proxy", 1080, [], none, none⟩
    let rule : Rule := ⟨["http"], .only [.expression "*" (Regex.betweenEnds
      (HostPattern.globRegex "*".toList))], ⟨.socks, "proxy", 1080⟩⟩
    Settings.default.enabled = true ∧ Settings.default.servers = [] ∧
      "http" ∈ defaultProtocols ∧ (ProxyVariable.read env "http").1 = some v ∧
      v.toServer.compile = .ok rule ∧
      ∃ g events, ofSettings env .default = (.ok (some g), events) ∧
        (g.router.answer (.select "http" "a\nb")).value = .ok (.target .direct) ∧
        (g.router.answer (.select "http" "ab")).value =
          .ok (.target (.proxy ⟨.socks, "proxy", 1080⟩)) := by
  intro env v rule
  have hv : (ProxyVariable.read env "http").1 = some v := by decide +kernel
  have hrule : v.toServer.compile = .ok rule := by decide +kernel
  refine ⟨rfl, rfl, by decide, hv, hrule, ?_⟩
  obtain ⟨-, -, g, events, hg, hanswer⟩ := answer_select_variable
    (show Settings.default.enabled = true from rfl) rfl (by decide) hv hrule
  obtain ⟨t, hdirect, hbypass, -⟩ := hanswer [] "a\nb" (by decide)
  obtain ⟨t', hproxy, -, hthrough⟩ := hanswer [] "ab" (by decide)
  refine ⟨g, events, hg, ?_, ?_⟩
  · exact hdirect.trans (by rw [hbypass (.inr ⟨rfl, by decide⟩)])
  · refine hproxy.trans ?_
    have hkind : v.kind = .socks := by decide
    rw [hthrough, hkind]
    rintro (⟨text, hmem, -⟩ | ⟨-, hfeed⟩)
    · cases hmem
    · exact absurd hfeed (by decide)

end Gateway

end ProxyRouting
