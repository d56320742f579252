import ProxyRouting.Proofs.CommandLine.Arguments
import ProxyRouting.Proofs.CommandLine.Log
import ProxyRouting.Proofs.Credentials

/-!
# URLs of the command line

The URLs share one router, and each is answered as if it were the only one: by its destination, the
rules and the credentials alone (`line`).  A URL without destination has no line but a warning.
What carries this from one URL to the next is that neither rules nor credentials change and that
what the router has decided agrees with the rules (`Follows`).

    g.Follows g₀ → (routeUrls g urls).1 = String.join (urls.map (line g₀))
    (run env files arguments).output = String.join (urls.map fun url =>
      (run env files (alone config url)).output)
    skips (run env files arguments).events = urls.flatMap fun url =>
      skips (run env files (alone config url)).events                            (run_urls_apart)
-/

namespace ProxyRouting.CommandLine

/-- The user that the proxy of a route is used as; there is none without a credential for it. -/
def user? (g : Gateway) (route : Route) : Option String :=
  route.target.endpoint?.bind fun e => (g.credential? e.host e.port).map Credential.username

/-- What is said of a URL that has a route. -/
def record (g : Gateway) (url : String) (route : Route) : String :=
  url ++ " -> " ++ route.target.text ++ " [" ++ ruleText route ++ "]" ++
    ((user? g route).map fun user => " (auth: " ++ user ++ "/***)").getD "" ++ "\n"

/-- What is printed for a URL by the rules and the credentials alone. -/
def line (g : Gateway) (url : String) : String :=
  match Destination.ofUri url with
  | .error _ => ""
  | .ok d => record g url (.among g.router.rules d)

/-! ## Records -/

theorem ruleText_eq_iff (route : Route) : ruleText route = "no rule" ↔ route = .direct := by
  cases route with
  | direct => simp [ruleText, Route.rule?]
  | via i e =>
    have hne : ruleText (.via i e) ≠ "no rule" := by
      intro h
      have hhead := congrArg (fun s => s.toList.head?) h
      simp [ruleText, Route.rule?] at hhead
    simp [hne]

theorem text_eq_iff (t : Target) : t.text = "DIRECT" ↔ t = .direct := by
  cases t with
  | direct => simp [Target.text]
  | proxy e =>
    have hne : e.text ≠ "DIRECT" := by
      intro h
      have hhead := congrArg (fun s => s.toList.head?) h
      obtain ⟨kind, host, port⟩ := e
      cases kind <;> simp [Endpoint.text, ProxyKind.name] at hhead
    simp [Target.text, hne]

theorem target_text_iff (route : Route) :
    route.target.text = "DIRECT" ↔ ruleText route = "no rule" := by
  rw [text_eq_iff, ruleText_eq_iff]
  cases route <;> simp [Route.target]

theorem user?_eq_some_iff {g : Gateway} {route : Route} {user : String} :
    user? g route = some user ↔ ∃ e c, route.target = .proxy e ∧
      g.credential? e.host e.port = some c ∧ c.username = user := by
  cases route with
  | direct => simp [user?, Route.target, Target.endpoint?]
  | via i e => simp [user?, Route.target, Target.endpoint?]

/-- What is shown of a credential is its user. -/
theorem authorization_fst (g : Gateway) (route : Route) : (authorization g route.target).1 =
    ((user? g route).map fun user => " (auth: " ++ user ++ "/***)").getD "" := by
  unfold authorization user? Gateway.credential?
  cases route.target.endpoint? with
  | none => rfl
  | some e =>
    cases g.credentials with
    | none => rfl
    | some store =>
      simp only [Option.bind_some]
      cases (store.lookup e.host e.port).1 with
      | none => rfl
      | some c => simp [Credential.text, String.append_assoc]

/-! ## Step -/

/-- A gateway has the rules and the credentials of another, and its decisions agree with them. -/
structure Follows (g g₀ : Gateway) : Prop where
  rules : g.router.rules = g₀.router.rules
  credentials : g.credentials = g₀.credentials
  agrees : g.router.Agrees

section
variable {g g₀ : Gateway}

theorem Follows.record_eq (h : Follows g g₀) (url : String) (route : Route) :
    record g url route = record g₀ url route := by
  simp only [record, user?, Gateway.credential?, h.credentials]

theorem routeUrl_error {url : String} {e : Error} (hd : Destination.ofUri url = .error e) :
    routeUrl g url = (g, "", [.urlSkipped url e]) := by
  simp only [routeUrl, hd]

/-- A URL with a destination has a record, and the router remembers the route. -/
theorem routeUrl_ok {url : String} {d : Destination} (hd : Destination.ofUri url = .ok d) :
    ∃ line events, routeUrl g url = ({ g with router := (g.router.resolve d).router }, line, events) ∧
      line = record g url (g.router.resolve d).value ∧ Quiet events := by
  rw [routeUrl, hd]
  refine ⟨_, _, rfl, ?_, ?_⟩
  · rw [record, ← authorization_fst]
    rfl
  · exact (quiet_resolve g.router d).append (quiet_authorization _ _)

theorem routeUrl_line (h : Follows g g₀) (url : String) : (routeUrl g url).2.1 = line g₀ url := by
  cases hd : Destination.ofUri url with
  | error e => simp only [routeUrl_error hd, line, hd]
  | ok d =>
    obtain ⟨line, events, heq, hline, -⟩ := routeUrl_ok (g := g) hd
    rw [heq, hline, h.record_eq, Router.resolve_value h.agrees, h.rules]
    simp only [CommandLine.line, hd]

theorem routeUrl_follows (h : Follows g g₀) (url : String) : Follows (routeUrl g url).1 g₀ := by
  cases hd : Destination.ofUri url with
  | error e => rwa [routeUrl_error hd]
  | ok d =>
    obtain ⟨line, events, heq, -⟩ := routeUrl_ok (g := g) hd
    rw [heq]
    exact ⟨(Router.resolve_rules _ d).trans h.rules, h.credentials,
      Router.resolve_agrees h.agrees d⟩

theorem quiet_routeUrl {url : String} {d : Destination} (hd : Destination.ofUri url = .ok d) :
    Quiet (routeUrl g url).2.2 := by
  obtain ⟨line, events, heq, -, hquiet⟩ := routeUrl_ok (g := g) hd
  rwa [heq]

theorem routine_routeUrl (g : Gateway) (url : String) : Routine (routeUrl g url).2.2 := by
  cases hd : Destination.ofUri url with
  | error e =>
    rw [routeUrl_error hd]
    exact List.forall_mem_singleton.mpr (.inl rfl)
  | ok d => exact (quiet_routeUrl hd).routine

/-- A URL is skipped by any gateway or by none. -/
theorem skips_routeUrl (g g₀ : Gateway) (url : String) :
    skips (routeUrl g url).2.2 = skips (routeUrl g₀ url).2.2 := by
  cases hd : Destination.ofUri url with
  | error e => rw [routeUrl_error hd, routeUrl_error hd]
  | ok d => rw [(quiet_routeUrl hd).skips_eq, (quiet_routeUrl hd).skips_eq]

/-! ## Run -/

theorem routeUrls_lines (urls : List String) : ∀ {g : Gateway}, Follows g g₀ →
    (routeUrls g urls).1 = String.join (urls.map (line g₀)) := by
  induction urls with
  | nil => exact fun _ => rfl
  | cons url urls ih =>
    intro g h
    rw [routeUrls, List.map_cons, String.join_cons, ← ih (routeUrl_follows h url),
      ← routeUrl_line h url]

theorem routine_routeUrls (urls : List String) : ∀ g, Routine (routeUrls g urls).2 := by
  induction urls with
  | nil => exact fun _ => List.forall_mem_nil _
  | cons url urls ih =>
    intro g
    have hurl := routine_routeUrl g url
    rw [routeUrls]
    generalize routeUrl g url = o at hurl ⊢
    exact hurl.append (ih o.1)

theorem skips_routeUrls (g₀ : Gateway) (urls : List String) : ∀ g,
    skips (routeUrls g urls).2 = urls.flatMap fun url => skips (routeUrl g₀ url).2.2 := by
  induction urls with
  | nil => exact fun _ => rfl
  | cons url urls ih =>
    intro g
    rw [routeUrls, skips_append, ih, skips_routeUrl g g₀, List.flatMap_cons]

end

/-! ## Gateways of settings -/

theorem ofSettings_eq_none_iff {env : Environment} {settings : Settings} {gateway : Option Gateway}
    {events : List Event} (h : Gateway.ofSettings env settings = (.ok gateway, events)) :
    gateway = none ↔ settings.enabled = false := by
  unfold Gateway.ofSettings at h
  cases henabled : settings.enabled with
  | false =>
    simp only [henabled, Bool.not_false, if_true, Prod.mk.injEq, Except.ok.injEq] at h
    simp [← h.1]
  | true =>
    simp only [henabled, Bool.not_true, Bool.false_eq_true, if_false] at h
    split at h
    · cases h
    · cases h
      simp

/-- The gateway of settings has decided nothing yet. -/
theorem follows_of_ofSettings {env : Environment} {settings : Settings} {g : Gateway}
    {events : List Event} (h : Gateway.ofSettings env settings = (.ok (some g), events)) :
    Follows g g := by
  obtain ⟨draft, -, rfl⟩ := Gateway.ofSettings_ok h
  exact ⟨rfl, rfl, Router.agrees_new draft.rules settings.alwaysPrint settings.printExclusions⟩

/-! ## Outcomes -/

/-- The outcome with proxies off. -/
def direct (events : List Event) (urls : List String) : Outcome :=
  ⟨0, directLines urls, events ++ [.allDirect], ""⟩

/-- The outcome with proxies on. -/
def routed (g : Gateway) (events : List Event) (urls : List String) : Outcome :=
  ⟨0, String.join (urls.map (line g)), events ++ (routeUrls g urls).2, ""⟩

section
variable {env : Environment} {files : Files} {arguments : List String} {a : Arguments}
  {settings : Settings} {events : List Event}

theorem run_eq_direct (hread : read arguments = .ok (.route a))
    (hload : loadSettings env files a.config = .ok settings)
    (hset : Gateway.ofSettings env settings = (.ok none, events)) :
    run env files arguments = direct events a.urls := by
  simp only [run, hread, route, hload, routeWith, hset]
  rfl

theorem run_eq_routed {g : Gateway} (hread : read arguments = .ok (.route a))
    (hload : loadSettings env files a.config = .ok settings)
    (hset : Gateway.ofSettings env settings = (.ok (some g), events)) :
    run env files arguments = routed g events a.urls := by
  simp only [run, hread, route, hload, routeWith, hset]
  rw [routeUrls_lines a.urls (follows_of_ofSettings hset)]
  rfl

/-- The run ends well, and its output and its warnings of skipped URLs are those of runs for one URL
each, in order. -/
structure IsRunOf (urls : List String) (only : String → Outcome) (o : Outcome) : Prop where
  code : o.code = 0
  failure : o.failure = ""
  output : o.output = String.join (urls.map fun url => (only url).output)
  skipped : skips o.events = urls.flatMap fun url => skips (only url).events

/-- A writer is handed what is told and lets through what its filter says.  One that lets through
nothing below warnings writes of the URLs only which are skipped. -/
structure IsLogged (env : Environment) (before : List Event) (o : Outcome) (w : LogWriter) : Prop where
  errors : o.errors w env = (if LogWriter.wantsJson env then w.json else w.plain)
    ((o.events.map Event.shown).filter (w.filter env))
  warnings : (∀ e : Event, w.filter env e.shown = true → Level.warn.rank ≤ e.level.rank) →
    o.errors w env = (if LogWriter.wantsJson env then w.json else w.plain)
      (((before ++ skips o.events).map Event.shown).filter (w.filter env))

/-- The log of events that skip nothing and routine ones after them. -/
theorem isLogged_of_routine {more : List Event} (w : LogWriter) (hbefore : skips events = [])
    (hmore : Routine more) {o : Outcome} (hevents : o.events = events ++ more)
    (hfailure : o.failure = "") : IsLogged env events o w := by
  have herrors : o.errors w env = (if LogWriter.wantsJson env then w.json else w.plain)
      ((o.events.map Event.shown).filter (w.filter env)) := by
    rw [Outcome.errors, hfailure, String.append_empty]
    rfl
  refine ⟨herrors, fun hf => ?_⟩
  rw [herrors, hevents, skips_append, hbefore, List.nil_append, List.map_append, List.map_append,
    List.filter_append, List.filter_append, hmore.filter_shown hf]

/-! ## Proxies off -/

/-- The line of a URL where proxies are off. -/
structure IsDirect (url : String) (o : Outcome) : Prop where
  output : o.output = url ++ " -> DIRECT\n"
  quiet : skips o.events = []

theorem routine_allDirect : Routine [.allDirect] :=
  List.forall_mem_singleton.mpr (.inr (by decide : Level.info.rank < Level.warn.rank))

theorem skips_direct (hbefore : skips events = []) (urls : List String) :
    skips (direct events urls).events = [] := by
  rw [direct, skips_append, hbefore]
  rfl

theorem isDirect (hbefore : skips events = []) (url : String) :
    IsDirect url (direct events [url]) :=
  ⟨by simp [direct, directLines], skips_direct hbefore [url]⟩

theorem isRunOf_direct (hbefore : skips events = []) (urls : List String) :
    IsRunOf urls (fun url => direct events [url]) (direct events urls) where
  code := rfl
  failure := rfl
  output := by
    simp only [(isDirect hbefore _).output]
    rfl
  skipped := by
    simp only [skips_direct hbefore]
    simp

/-! ## Proxies on -/

/-- Nothing is printed for the URL, and there is one warning, which names the error. -/
structure Skips (url : String) (e : Error) (o : Outcome) : Prop where
  output : o.output = ""
  warning : (skips o.events).map Event.shown =
    [⟨.warn, "netproxy", "Skipping " ++ url ++ ": " ++ e.message, []⟩]

/-- There is no warning for the URL, and what is printed is the record of the route to its
destination, which no router refuses.  The record says `DIRECT` just where it names no rule, and
shows a user just where the gateway has a credential for the proxy. -/
structure Records (g : Gateway) (url : String) (d : Destination) (o : Outcome) : Prop where
  quiet : skips o.events = []
  resolves (r : Router) : ∃ route, (r.answer (.resolve d.scheme d.host)).value = .ok (.route route)
  output : o.output = record g url (.among g.router.rules d)
  direct : (Route.among g.router.rules d).target.text = "DIRECT" ↔
    ruleText (.among g.router.rules d) = "no rule"
  shown (user : String) : user? g (.among g.router.rules d) = some user ↔
    ∃ e c, (Route.among g.router.rules d).target = .proxy e ∧
      g.credential? e.host e.port = some c ∧ c.username = user

section
variable (g : Gateway) (hbefore : skips events = [])

include hbefore

theorem skips_routed (urls : List String) : skips (routed g events urls).events =
    urls.flatMap fun url => skips (routeUrl g url).2.2 := by
  rw [routed, skips_append, hbefore, List.nil_append, skips_routeUrls g]

theorem isRunOf_routed (urls : List String) :
    IsRunOf urls (fun url => routed g events [url]) (routed g events urls) where
  code := rfl
  failure := rfl
  output := by simp [routed]
  skipped := by simp only [skips_routed g hbefore, List.flatMap_singleton]

theorem skips_of_error {url : String} {e : Error} (h : Destination.ofUri url = .error e) :
    Skips url e (routed g events [url]) := by
  refine ⟨by simp [routed, line, h], ?_⟩
  rw [skips_routed g hbefore, List.flatMap_singleton, routeUrl_error h]
  rfl

theorem records_of_ok {url : String} {d : Destination} (h : Destination.ofUri url = .ok d) :
    Records g url d (routed g events [url]) := by
  refine ⟨?_, fun r => ⟨(r.resolve d).value, ?_⟩, by simp [routed, line, h], target_text_iff _,
    fun user => user?_eq_some_iff⟩
  · rw [skips_routed g hbefore, List.flatMap_singleton, (quiet_routeUrl h).skips_eq]
  · have hof : Destination.of d.scheme d.host = .ok d := Destination.of_eq_ok_iff.mpr ⟨rfl, rfl⟩
    simp only [Router.answer, hof]
    rfl

end

/-! ## Top theorem -/

/-- **URLs apart.**  Where the settings can be loaded and set up, a run ends well, and prints and
warns as it does for each URL alone, in order, whatever log is written.  With proxies on, a URL
without destination is skipped with one warning, and any other has one record; with proxies off, each
URL has the direct line. -/
theorem run_urls_apart {gateway : Option Gateway} (hread : read arguments = .ok (.route a))
    (hload : loadSettings env files a.config = .ok settings)
    (hset : Gateway.ofSettings env settings = (.ok gateway, events)) :
    let outcome := run env files arguments
    let only (url : String) := run env files (alone a.config url)
    a.urls ≠ [] ∧ (∀ url, read (alone a.config url) = .ok (.route ⟨a.config, [url]⟩)) ∧
    IsRunOf a.urls only outcome ∧ (∀ w, IsLogged env events outcome w) ∧
    (gateway = none ↔ settings.enabled = false) ∧
    (gateway = none → ∀ url, IsDirect url (only url)) ∧
    ∀ g, gateway = some g → ∀ url,
      (∀ e, Destination.ofUri url = .error e → Skips url e (only url)) ∧
      ∀ d, Destination.ofUri url = .ok d → Records g url d (only url) := by
  obtain ⟨hconfig, hurls⟩ := read_route hread
  have halone := read_alone hconfig
  have hbefore : skips events = [] := by
    have hskips := skips_ofSettings env settings
    rwa [hset] at hskips
  intro outcome only
  refine ⟨hurls, halone, ?_⟩
  cases gateway with
  | none =>
    have houtcome : outcome = direct events a.urls := run_eq_direct hread hload hset
    have honly : only = fun url => direct events [url] :=
      funext fun url => run_eq_direct (a := ⟨a.config, [url]⟩) (halone url) hload hset
    rw [houtcome, honly]
    refine ⟨isRunOf_direct hbefore a.urls, fun w => ?_, ofSettings_eq_none_iff hset,
      fun _ => isDirect hbefore, ?_⟩
    · exact isLogged_of_routine w hbefore routine_allDirect rfl rfl
    · intro g hg
      cases hg
  | some g =>
    have houtcome : outcome = routed g events a.urls := run_eq_routed hread hload hset
    have honly : only = fun url => routed g events [url] :=
      funext fun url => run_eq_routed (a := ⟨a.config, [url]⟩) (halone url) hload hset
    rw [houtcome, honly]
    refine ⟨isRunOf_routed g hbefore a.urls, fun w => ?_, ofSettings_eq_none_iff hset, ?_, ?_⟩
    · exact isLogged_of_routine w hbefore (routine_routeUrls a.urls g) rfl rfl
    · intro h
      cases h
    · rintro _ ⟨⟩ url
      exact ⟨fun e => skips_of_error g hbefore, fun d => records_of_ok g hbefore⟩

end

/-- Two URLs for one destination, with one that is skipped and one without rule between. -/
theorem run_urls_apart_shared :
    let env : Environment := .ofList [("http_proxy", "socks5://u:pw@proxy:1080")]
    let files : Files := fun _ => .error .missing
    let urls := ["http://[::1]/", "nothing", "git://a", "http://[::1]:81/x"]
    let draft := Gateway.ofEnvironment env
    let (g, event) := Gateway.ofDraft .default draft
    read urls = .ok (.route ⟨none, urls⟩) ∧
      loadSettings env files none = .ok .default ∧
      Gateway.ofSettings env .default = (.ok (some g), draft.events ++ [event]) ∧
      (run env files urls).output = "http://[::1]/ -> socks://proxy:1080 [rule #0] (auth: u/***)\n" ++
        "git://a -> DIRECT [no rule]\n" ++
        "http://[::1]:81/x -> socks://proxy:1080 [rule #0] (auth: u/***)\n" ∧
      skips (run env files urls).events = [.urlSkipped "nothing" (.request "" "")] ∧
      (run env files urls).errors .timeless env =
        "WARN netproxy: Skipping nothing: Invalid request: scheme = '' host = ''\n" ∧
      Skips "nothing" (.request "" "") (run env files ["--", "nothing"]) ∧
      Records g "git://a" ⟨"git", "a", by decide, by decide⟩
        (run env files ["--", "git://a"]) := by
  intro env files urls draft
  have hread : read urls = .ok (.route ⟨none, urls⟩) := rfl
  have hload : loadSettings env files none = .ok .default := rfl
  have hset : Gateway.ofSettings env .default =
      (.ok (some (Gateway.ofDraft .default draft).1),
        draft.events ++ [(Gateway.ofDraft .default draft).2]) := rfl
  obtain ⟨-, -, hrun, hlogged, -, -, honly⟩ := run_urls_apart hread hload hset
  have hskips : skips (run env files urls).events = [.urlSkipped "nothing" (.request "" "")] := by
    rw [hrun.skipped]
    decide +kernel
  refine ⟨hread, hload, hset, ?_, hskips, ?_, (honly _ rfl "nothing").1 _ (by decide +kernel),
    (honly _ rfl "git://a").2 _ (by decide +kernel)⟩
  · rw [hrun.output]
    decide +kernel
  · rw [(hlogged .timeless).warnings fun e => (filter_timeless rfl e).mp, hskips]
    decide +kernel

end ProxyRouting.CommandLine
