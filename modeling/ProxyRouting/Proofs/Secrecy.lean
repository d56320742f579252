import ProxyRouting.CommandLine.Basic
import ProxyRouting.Proofs.Secrecy.Gateway

/-!
# Passwords stay out of sight

Settings that differ in nothing but the text of passwords cannot be told apart by anything that is
shown, written, told to the log or printed, whatever is asked; nor can proxy variables.  The
password of a credential that is found, and the header made of it, are all that may differ.

    s.masked = s'.masked → s.LooksLike s'
    v.masked = v'.masked → v.LooksLike v'
-/

namespace ProxyRouting

/-! ## The command line -/

namespace CommandLine

/-- Nothing that is printed or told tells the outcomes apart, whatever writes the log. -/
structure Outcome.LooksLike (env : Environment) (o o' : Outcome) : Prop where
  code : o.code = o'.code
  output : o.output = o'.output
  told : o.events.map Event.shown = o'.events.map Event.shown
  errors (w : LogWriter) : o.errors w env = o'.errors w env

/-- A writer sees of events what is shown of them. -/
theorem Outcome.looksLike_of_shown_eq (env : Environment) (code : UInt32) (output failure : String)
    {events events' : List Event} (h : events.map Event.shown = events'.map Event.shown) :
    LooksLike env ⟨code, output, events, failure⟩ ⟨code, output, events', failure⟩ :=
  ⟨rfl, rfl, h, fun w => by rw [errors, errors, LogWriter.text, LogWriter.text, h]⟩

theorem Outcome.LooksLike.refl (env : Environment) (o : Outcome) : o.LooksLike env o :=
  ⟨rfl, rfl, rfl, fun _ => rfl⟩

theorem authorization_masked (g : Gateway) (t : Target) :
    (authorization g.masked t).1 = (authorization g t).1 ∧
      (authorization g.masked t).2.map Event.shown = (authorization g t).2.map Event.shown := by
  unfold authorization Gateway.masked
  cases t.endpoint? with
  | none => exact ⟨rfl, rfl⟩
  | some e =>
    cases g.credentials with
    | none => exact ⟨rfl, rfl⟩
    | some store =>
      obtain ⟨hfound, htold⟩ := store.lookup_masked e.host e.port
      simp only [Option.map_some, hfound, Option.map_map, List.map_cons, htold, List.map_nil,
        and_true]
      rfl

theorem routeUrl_masked (g : Gateway) (url : String) :
    (routeUrl g.masked url).1 = (routeUrl g url).1.masked ∧
      (routeUrl g.masked url).2.1 = (routeUrl g url).2.1 ∧
      (routeUrl g.masked url).2.2.map Event.shown = (routeUrl g url).2.2.map Event.shown := by
  unfold routeUrl
  cases Destination.ofUri url with
  | error e => exact ⟨rfl, rfl, rfl⟩
  | ok d =>
    obtain ⟨htext, htold⟩ := authorization_masked g (g.router.resolve d).value.target
    refine ⟨rfl, ?_, ?_⟩
    · exact congrArg (fun auth => _ ++ auth ++ "\n") htext
    · simp only [List.map_append]
      exact congrArg (_ ++ ·) htold

theorem routeUrls_masked (urls : List String) : ∀ g : Gateway,
    (routeUrls g.masked urls).1 = (routeUrls g urls).1 ∧
      (routeUrls g.masked urls).2.map Event.shown = (routeUrls g urls).2.map Event.shown := by
  induction urls with
  | nil => exact fun _ => ⟨rfl, rfl⟩
  | cons url urls ih =>
    intro g
    obtain ⟨hgateway, hline, htold⟩ := routeUrl_masked g url
    obtain ⟨hlines, hmore⟩ := ih (routeUrl g url).1
    simp only [routeUrls, hgateway, hline, hlines, List.map_append, htold, hmore, and_self]

theorem routeWith_looksLike {s s' : Settings} (h : s.masked = s'.masked) (env : Environment)
    (urls : List String) : (routeWith env s urls).LooksLike env (routeWith env s' urls) := by
  have halike := Gateway.ofSettings_alike h fun protocol _ => Gateway.AsksAlike.refl env protocol
  unfold routeWith
  generalize Gateway.ofSettings env s = setUp, Gateway.ofSettings env s' = setUp' at halike ⊢
  obtain ⟨result, events⟩ := setUp
  obtain ⟨result', events'⟩ := setUp'
  obtain ⟨hresult, hevents⟩ := halike
  cases hresult with
  | error e => exact Outcome.looksLike_of_shown_eq env _ _ _ hevents
  | none =>
    refine Outcome.looksLike_of_shown_eq env _ _ _ ?_
    rw [List.map_append, List.map_append, hevents]
  | @some g g' hg =>
    have hlines := eq_of_masked_eq (fun g => (routeUrls g urls).1) hg fun g =>
      (routeUrls_masked urls g).1
    have hmore := eq_of_masked_eq (fun g => (routeUrls g urls).2.map Event.shown) hg fun g =>
      (routeUrls_masked urls g).2
    simp only [hlines]
    refine Outcome.looksLike_of_shown_eq env _ _ _ ?_
    rw [List.map_append, List.map_append, hevents, hmore]

/-- Where the settings that are loaded are masked alike, the runs look alike. -/
theorem run_looksLike {s s' : Settings} (h : s.masked = s'.masked) {env : Environment}
    {files files' : Files} {arguments : List String}
    (hload : ∀ a, read arguments = .ok (.route a) →
      loadSettings env files a.config = .ok s ∧ loadSettings env files' a.config = .ok s') :
    (run env files arguments).LooksLike env (run env files' arguments) := by
  unfold run
  cases hread : read arguments with
  | error fault => exact Outcome.LooksLike.refl env _
  | ok invocation =>
    cases invocation with
    | version => exact Outcome.LooksLike.refl env _
    | help => exact Outcome.LooksLike.refl env _
    | route a =>
      obtain ⟨hs, hs'⟩ := hload a hread
      simp only [route, hs, hs']
      exact routeWith_looksLike h env a.urls

end CommandLine

/-! ## Likeness -/

/-- What is seen of the gateway of some settings, if there is one, and what is told as it is set
up. -/
def Gateway.built (env : Environment) (s : Settings) (requests : List Request) (host : String)
    (port : UInt16) : Except Error (Option Gateway.View) × List Event.Shown :=
  let (gateway, events) := ofSettings env s
  (gateway.map (Option.map fun g => g.view requests host port), events.map Event.shown)

theorem Gateway.built_congr {env env' : Environment} {s s' : Settings} (hs : s.masked = s'.masked)
    (hread : ∀ protocol ∈ defaultProtocols, AsksAlike env env' protocol) (requests : List Request)
    (host : String) (port : UInt16) :
    built env s requests host port = built env' s' requests host port := by
  have halike := ofSettings_alike hs hread
  unfold built
  generalize ofSettings env s = setUp, ofSettings env' s' = setUp' at halike ⊢
  obtain ⟨result, events⟩ := setUp
  obtain ⟨result', events'⟩ := setUp'
  obtain ⟨hresult, hevents⟩ := halike
  cases hresult with
  | error e => simp only [hevents, Except.map]
  | none => simp only [hevents, Except.map, Option.map_none]
  | some hg =>
    have hview := eq_of_masked_eq (fun g => g.view requests host port) hg
      (view_masked requests host port)
    simp only [hevents, Except.map, Option.map_some, hview]

/-- Nothing that is shown, written, told or printed tells the settings apart. -/
structure Settings.LooksLike (s s' : Settings) : Prop where
  inspect : s.inspect = s'.inspect
  text : s.toText = s'.toText
  built (env : Environment) (requests : List Request) (host : String) (port : UInt16) :
    Gateway.built env s requests host port = Gateway.built env s' requests host port
  routes (env : Environment) (urls : List String) :
    (CommandLine.routeWith env s urls).LooksLike env (CommandLine.routeWith env s' urls)
  runs (env : Environment) (files files' : Files) (arguments : List String) :
    (∀ a, CommandLine.read arguments = .ok (.route a) →
      CommandLine.loadSettings env files a.config = .ok s ∧
        CommandLine.loadSettings env files' a.config = .ok s') →
      (CommandLine.run env files arguments).LooksLike env (CommandLine.run env files' arguments)

/-- Nothing that is shown of the variables, or told as they are used, tells them apart. -/
structure ProxyVariable.LooksLike (v v' : ProxyVariable) : Prop where
  inspect : v.inspect = v'.inspect
  value : v.value = v'.value
  name : v.name = v'.name
  told (draft : Gateway.Draft) : (Gateway.addVariable draft v).events.map Event.shown =
    (Gateway.addVariable draft v').events.map Event.shown

/-! ## Top theorem -/

/-- **The text of a password is never seen.**  Settings that differ in nothing else look alike, and
so do proxy variables; and where the environments differ in nothing else for any default protocol,
the same is seen of the gateways. -/
theorem Settings.looksLike_of_masked_eq {s s' : Settings} (h : s.masked = s'.masked) :
    s.LooksLike s' ∧
      (∀ v v' : ProxyVariable, v.masked = v'.masked → v.LooksLike v') ∧
      ∀ env env', (∀ protocol ∈ defaultProtocols, Gateway.AsksAlike env env' protocol) →
        ∀ requests host port,
          Gateway.built env s requests host port = Gateway.built env' s' requests host port := by
  refine ⟨⟨?_, ?_, ?_, ?_, ?_⟩, fun v v' hv => ⟨?_, ?_, ?_, fun draft => ?_⟩, ?_⟩
  · exact eq_of_masked_eq inspect h inspect_masked
  · exact eq_of_masked_eq toText h toText_masked
  · exact fun env => Gateway.built_congr h fun protocol _ => Gateway.AsksAlike.refl env protocol
  · exact CommandLine.routeWith_looksLike h
  · exact fun env files files' arguments => CommandLine.run_looksLike h
  · exact eq_of_masked_eq ProxyVariable.inspect hv ProxyVariable.inspect_masked
  · exact eq_of_masked_eq ProxyVariable.value hv ProxyVariable.value_masked
  · exact eq_of_masked_eq ProxyVariable.name hv ProxyVariable.name_masked
  · exact (Gateway.addVariable_alike ⟨rfl, rfl, rfl⟩ hv).events
  · exact fun env env' hread => Gateway.built_congr h hread

/-- Two passwords for one proxy, in the settings and in the environment: the credentials that are
kept differ, and nothing that is seen does. -/
theorem Settings.looksLike_of_masked_eq_secret :
    let server (password : String) : ServerRecord :=
      ⟨.socks, some "proxy", some 1080, some "u", some password, ["*"], [], ["http"]⟩
    let settings (password : String) : Settings := ⟨true, true, [], [server password]⟩
    let proxy (password : String) : ProxyVariable :=
      ⟨"http", "socks5", "proxy", 1080, [], some "u", some password⟩
    let env (password : String) : Environment :=
      .ofList [("http_proxy", "socks5://u:" ++ password ++ "@proxy:1080")]
    Gateway.register .empty (server "secret") ≠ Gateway.register .empty (server "other") ∧
      (settings "secret").masked = (settings "other").masked ∧
      (settings "secret").LooksLike (settings "other") ∧
      (ProxyVariable.read (env "secret") "http").1 = some (proxy "secret") ∧
      (proxy "secret").LooksLike (proxy "other") ∧
      ∀ requests host port, Gateway.built (env "secret") .default requests host port =
        Gateway.built (env "other") .default requests host port := by
  intro server settings proxy env
  have hmasked : (settings "secret").masked = (settings "other").masked := rfl
  have hproxy : (proxy "secret").masked = (proxy "other").masked := rfl
  obtain ⟨hsettings, hvariables, -⟩ := looksLike_of_masked_eq hmasked
  obtain ⟨-, -, henvironments⟩ := @looksLike_of_masked_eq default default rfl
  refine ⟨by decide, hmasked, hsettings, by decide +kernel, hvariables _ _ hproxy, ?_⟩
  refine henvironments _ _ fun protocol hprotocol => ?_
  have hcases : protocol = "http" ∨ protocol = "https" ∨ protocol = "ftp" := by
    simpa [defaultProtocols] using hprotocol
  rcases hcases with rfl | rfl | rfl <;> exact ⟨by decide +kernel, by decide +kernel⟩

end ProxyRouting
