import ProxyRouting.Proofs.Gateway.Variables

/-!
# Protocols are kept apart

Without servers in the settings a request is decided by the variable of its own protocol and the
list of hosts without proxy.  Whatever the other variables say, and whatever was asked before, it
gets the same target; only the number of the rule can be another one.  The reason is that no two of
the records that the environment stands for are for one protocol (`mem_writtenOut_for_iff`), so the
first that serves a request is the only one that can:

    accepted? env p = accepted? env' p → the targets of a request for p are equal

A scheme that is none of the default protocols has no record at all, and its requests go directly.
-/

namespace ProxyRouting

/-- Where no record is for a scheme, its requests go directly. -/
theorem FirstServing.direct_of_none {records : List ServerRecord} {scheme host : String}
    {route : Route} (h : FirstServing records scheme host route)
    (hnone : ∀ r ∈ records, scheme ∉ r.forProtocols) : route = .direct := by
  cases route with
  | direct => rfl
  | via i e =>
    obtain ⟨r, hget, -, hserves, -⟩ := h
    exact absurd hserves.1 (hnone r (List.mem_of_getElem? hget))

/-- A request for a scheme and a host that are not empty gets the target of their route. -/
theorem Router.answer_target (r : Router) (d : Destination) :
    (r.answer (.resolve d.scheme d.host)).value = .ok (.route (r.resolve d).value) ∧
      (r.answer (.select d.scheme d.host)).value = .ok (.target (r.resolve d).value.target) := by
  have hd : Destination.of d.scheme d.host = .ok d := Destination.of_eq_ok_iff.mpr ⟨rfl, rfl⟩
  simp only [Router.answer, Router.ask, hd, Answer.map, and_self]

namespace Gateway

open ProxyVariable (nameFor)

/-! ## The record of a protocol -/

/-- Of the records that the environment stands for, only its own is for a protocol. -/
theorem mem_writtenOut_for_iff {env : Environment} {protocol : String} {r : ServerRecord} :
    (r ∈ writtenOut env ∧ protocol ∈ r.forProtocols) ↔
      protocol ∈ defaultProtocols ∧ (accepted? env protocol).map (recordFor protocol) = some r := by
  unfold writtenOut
  rw [List.mem_filterMap]
  constructor
  · rintro ⟨⟨other, hother, hr⟩, hfor⟩
    obtain ⟨v, -, rfl⟩ := Option.map_eq_some_iff.mp hr
    obtain rfl : protocol = other := List.mem_singleton.mp hfor
    exact ⟨hother, hr⟩
  · rintro ⟨hp, hr⟩
    refine ⟨⟨protocol, hp, hr⟩, ?_⟩
    obtain ⟨v, -, rfl⟩ := Option.map_eq_some_iff.mp hr
    exact List.mem_singleton_self protocol

/-- What is accepted for a protocol hangs on its own variable and on `no_proxy` only. -/
theorem accepted?_congr {env env' : Environment} {protocol : String}
    (hown : env.AgreesOn env' (nameFor protocol)) (hlist : env.AgreesOn env' "no_proxy") :
    accepted? env protocol = accepted? env' protocol := by
  unfold accepted?
  rw [ProxyVariable.read_congr hown hlist]

section
variable {env env' : Environment} {protocol host : String} {route route' : Route}

theorem direct_of_not_accepted (hv : accepted? env protocol = none)
    (h : FirstServing (writtenOut env) protocol host route) : route.target = .direct := by
  have hnone : ∀ r ∈ writtenOut env, protocol ∉ r.forProtocols := by
    intro r hr hfor
    have hown := (mem_writtenOut_for_iff.mp ⟨hr, hfor⟩).2
    rw [hv] at hown
    cases hown
  exact congrArg Route.target (h.direct_of_none hnone)

theorem target_of_accepted {v : ProxyVariable} (hp : protocol ∈ defaultProtocols)
    (hv : accepted? env protocol = some v)
    (h : FirstServing (writtenOut env) protocol host route) :
    ((recordFor protocol v).Serves protocol host →
      route.target = .proxy ⟨v.kind, v.host, v.port⟩) ∧
    (¬ (recordFor protocol v).Serves protocol host → route.target = .direct) := by
  have hown : (accepted? env protocol).map (recordFor protocol) = some (recordFor protocol v) := by
    rw [hv]
    rfl
  have honly : ∀ r ∈ writtenOut env, protocol ∈ r.forProtocols → r = recordFor protocol v := by
    intro r hr hfor
    have hr' := (mem_writtenOut_for_iff.mp ⟨hr, hfor⟩).2
    rw [hown] at hr'
    exact (Option.some.inj hr').symm
  exact h.target_of_only (mem_writtenOut_for_iff.mpr ⟨hp, hown⟩).1 honly ⟨rfl, rfl, rfl⟩

/-- The target of a request comes from what is accepted for its protocol. -/
theorem target_congr (hp : protocol ∈ defaultProtocols)
    (haccepted : accepted? env protocol = accepted? env' protocol)
    (h : FirstServing (writtenOut env) protocol host route)
    (h' : FirstServing (writtenOut env') protocol host route') : route.target = route'.target := by
  cases hv : accepted? env protocol with
  | none =>
    rw [direct_of_not_accepted hv h, direct_of_not_accepted (haccepted ▸ hv) h']
  | some v =>
    obtain ⟨hproxy, hdirect⟩ := target_of_accepted hp hv h
    obtain ⟨hproxy', hdirect'⟩ := target_of_accepted hp (haccepted ▸ hv) h'
    by_cases hserves : (recordFor protocol v).Serves protocol host
    · rw [hproxy hserves, hproxy' hserves]
    · rw [hdirect hserves, hdirect' hserves]

end

/-! ## Runs -/

/-- Whatever was asked before, the route of a gateway of the environment is that of the records that
the environment stands for. -/
theorem resolve_firstServing {env : Environment} {settings : Settings} {g : Gateway}
    {events : List Event} (hservers : settings.servers = [])
    (hg : ofSettings env settings = (.ok (some g), events)) (requests : List Request)
    (d : Destination) : FirstServing (writtenOut env) d.scheme d.host
      ((g.router.after requests).resolve d).value := by
  obtain ⟨draft, hdraft, rfl⟩ := ofSettings_ok hg
  rw [sources_environment env hservers] at hdraft
  have hagrees := Router.after_agrees requests
    (Router.agrees_new draft.rules settings.alwaysPrint settings.printExclusions)
  have hroute := Router.resolve_value hagrees d
  rw [Router.after_rules] at hroute
  refine Eq.mpr (congrArg _ hroute) ?_
  exact among_firstServing hdraft.rules d

/-! ## Top theorem -/

/-- **Protocols are kept apart.**  Two gateways of environments that agree on the variable of a
protocol and on the list of hosts without proxy give each request for the protocol the same target,
whatever they were asked before and whatever they report.  A request for any other scheme is refused
if its scheme or host is empty, and goes directly else. -/
theorem answers_agree_of_agreesOn {settings settings' : Settings}
    (henabled : settings.enabled = true) (hservers : settings.servers = [])
    (henabled' : settings'.enabled = true) (hservers' : settings'.servers = []) :
    (∀ env env' protocol, protocol ∈ defaultProtocols → env.AgreesOn env' (nameFor protocol) →
      env.AgreesOn env' "no_proxy" → ∃ g events g' events',
        ofSettings env settings = (.ok (some g), events) ∧
        ofSettings env' settings' = (.ok (some g'), events') ∧
        ∀ (requests requests' : List Request) (host : String), host ≠ "" → ∃ route route',
          ((g.router.after requests).answer (.resolve protocol host)).value = .ok (.route route) ∧
          ((g'.router.after requests').answer (.resolve protocol host)).value =
            .ok (.route route') ∧
          route.target = route'.target ∧
          ((g.router.after requests).answer (.select protocol host)).value =
            .ok (.target route.target) ∧
          ((g'.router.after requests').answer (.select protocol host)).value =
            .ok (.target route.target)) ∧
    (∀ env scheme, scheme ∉ defaultProtocols → ∃ g events,
      ofSettings env settings = (.ok (some g), events) ∧
        ∀ (requests : List Request) (host : String),
          ((g.router.after requests).answer (.select scheme host)).value =
            if scheme = "" ∨ host = "" then .error (.request scheme host)
            else .ok (.target .direct)) := by
  constructor
  · intro env env' protocol hp hown hlist
    obtain ⟨g, events, hg⟩ := ofSettings_environment env henabled hservers
    obtain ⟨g', events', hg'⟩ := ofSettings_environment env' henabled' hservers'
    refine ⟨g, events, g', events', hg, hg', fun requests requests' host hhost => ?_⟩
    let d : Destination := ⟨protocol, host, protocol_ne hp, hhost⟩
    have htarget := target_congr hp (accepted?_congr hown hlist)
      (resolve_firstServing hservers hg requests d) (resolve_firstServing hservers' hg' requests' d)
    obtain ⟨hroute, hselect⟩ := Router.answer_target (g.router.after requests) d
    obtain ⟨hroute', hselect'⟩ := Router.answer_target (g'.router.after requests') d
    rw [← htarget] at hselect'
    exact ⟨_, _, hroute, hroute', htarget, hselect, hselect'⟩
  · intro env scheme hscheme
    obtain ⟨g, events, hg⟩ := ofSettings_environment env henabled hservers
    refine ⟨g, events, hg, fun requests host => ?_⟩
    cases hd : Destination.of scheme host with
    | error e =>
      obtain ⟨hempty, rfl⟩ := Destination.of_eq_error_iff.mp hd
      rw [if_pos hempty]
      simp only [Router.answer, Router.ask, hd]
    | ok d =>
      obtain ⟨rfl, rfl⟩ := Destination.of_eq_ok_iff.mp hd
      rw [if_neg (fun hempty => hempty.elim d.scheme_ne d.host_ne), (Router.answer_target _ d).2]
      have hnone : ∀ r ∈ writtenOut env, d.scheme ∉ r.forProtocols := fun r hr hfor =>
        hscheme (mem_writtenOut_for_iff.mp ⟨hr, hfor⟩).1
      have hroute := (resolve_firstServing hservers hg requests d).direct_of_none hnone
      rw [hroute]
      rfl

/-- The proxy for one protocol is kept whatever is said for the others, and one gateway was asked
for another host before. -/
theorem answers_agree_of_agreesOn_noise :
    let env : Environment := .ofList [("http_proxy", "socks5://proxy:1080"), ("NO_PROXY", "a,.b")]
    let noisy : Environment := .ofList [("ftp_proxy", "socks5://other:1080"),
      ("HTTPS_PROXY", "socks5://secure"), ("http_proxy", "socks5://proxy:1080"),
      ("NO_PROXY", "a,.b")]
    Settings.default.enabled = true ∧ Settings.default.servers = [] ∧ "http" ∈ defaultProtocols ∧
      env.AgreesOn noisy "http_proxy" ∧ env.AgreesOn noisy "no_proxy" ∧
      ¬ env.AgreesOn noisy "ftp_proxy" ∧
      ∃ g events g' events', ofSettings env .default = (.ok (some g), events) ∧
        ofSettings noisy ⟨true, true, [], []⟩ = (.ok (some g'), events') ∧
        ∃ t, (g.router.answer (.select "http" "c")).value = .ok (.target t) ∧
          ((g'.router.after [.select "ftp" "c", .select "http" "a"]).answer
            (.select "http" "c")).value = .ok (.target t) := by
  intro env noisy
  have hown : env.AgreesOn noisy "http_proxy" := by
    unfold Environment.AgreesOn
    decide +kernel
  have hlist : env.AgreesOn noisy "no_proxy" := by
    unfold Environment.AgreesOn
    decide +kernel
  have hother : ¬ env.AgreesOn noisy "ftp_proxy" := by
    unfold Environment.AgreesOn
    decide +kernel
  obtain ⟨g, events, g', events', hg, hg', hanswers⟩ :=
    (@answers_agree_of_agreesOn .default ⟨true, true, [], []⟩ rfl rfl rfl rfl).1 env noisy "http"
      (by decide) hown hlist
  obtain ⟨route, -, -, -, -, hselect, hselect'⟩ :=
    hanswers [] [.select "ftp" "c", .select "http" "a"] "c" (by decide)
  exact ⟨rfl, rfl, by decide, hown, hlist, hother, g, events, g', events', hg, hg', route.target,
    hselect, hselect'⟩

end Gateway

end ProxyRouting
