import Mathlib.Data.Finset.Card
import Mathlib.Data.Finset.Dedup
import ProxyRouting.Proofs.Routing

/-!
# What a run keeps and what it tells

A router keeps one decision for each destination that it was ever asked for, and tells the log of a
decision when it is made.  So three numbers are the same after every request of a run: the
decisions that are kept, the destinations that were asked for, and the decisions told of.

    r.Remembers requests → (r.answer q).router.Remembers (requests ++ [q])
    (fresh.after requests).decidedCount = number of destinations of requests
                                        = number of decisions told         (run_tells_decisions_once)
-/

namespace ProxyRouting

/-- The destination that a request is for; one with an empty scheme or host is for none. -/
def Request.destination? : Request → Option Destination
  | .resolve scheme host | .select scheme host =>
    if h : scheme ≠ "" ∧ host ≠ "" then some ⟨scheme, host, h.1, h.2⟩ else none
  | .selectUri uri => (Destination.ofUri uri).toOption
  | .connectFailed _ _ => none

/-- The destinations of some requests, each once. -/
def destinations (requests : List Request) : Finset Destination :=
  (requests.filterMap Request.destination?).toFinset

/-- The event is of this level and its message is that of a route. -/
def Event.tellsRoute (level : Level) (e : Event) : Bool :=
  e.level == level && "Proxies for".toList.isPrefixOf e.message.toList

/-! ## Destinations of requests -/

namespace Request

theorem toOption_of (scheme host : String) : (Destination.of scheme host).toOption =
    if h : scheme ≠ "" ∧ host ≠ "" then some ⟨scheme, host, h.1, h.2⟩ else none := by
  by_cases h : scheme ≠ "" ∧ host ≠ ""
  · have hof : Destination.of scheme host = .ok ⟨scheme, host, h.1, h.2⟩ :=
      Destination.of_eq_ok_iff.mpr ⟨rfl, rfl⟩
    rw [dif_pos h, hof]
    rfl
  · have hempty : scheme = "" ∨ host = "" := by
      rwa [not_and_or, not_not, not_not] at h
    have hof : Destination.of scheme host = .error (.request scheme host) :=
      Destination.of_eq_error_iff.mpr ⟨hempty, rfl⟩
    rw [dif_neg h, hof]
    rfl

/-- Every request but for a note of a failed connection asks for the route to a destination, or for
a part of it. -/
theorem answer_eq_ask (q : Request) :
    (∃ (d : Except Error Destination) (f : Route → Reply), d.toOption = q.destination? ∧
      ∀ r : Router, r.answer q = r.ask d f) ∨
    (q.destination? = none ∧ ∃ uri cause, q = .connectFailed uri cause) := by
  cases q with
  | resolve scheme host =>
    exact .inl ⟨Destination.of scheme host, .route, toOption_of scheme host, fun r => rfl⟩
  | select scheme host =>
    exact .inl ⟨Destination.of scheme host, fun route => .target route.target,
      toOption_of scheme host, fun r => rfl⟩
  | selectUri uri =>
    exact .inl ⟨Destination.ofUri uri, fun route => .target route.target, rfl, fun r => rfl⟩
  | connectFailed uri cause => exact .inr ⟨rfl, uri, cause, rfl⟩

end Request

theorem destinations_append_none {q : Request} (requests : List Request)
    (h : q.destination? = none) : destinations (requests ++ [q]) = destinations requests := by
  simp [destinations, h]

theorem destinations_append_some {q : Request} {d : Destination} (requests : List Request)
    (h : q.destination? = some d) :
    destinations (requests ++ [q]) = insert d (destinations requests) := by
  ext d'
  simp [destinations, h]

/-! ## Events -/

/-- What is said of a route begins with these words; the level is left to tell. -/
theorem tellsRoute_of_message {e : Event} {d : Destination} {route : Route}
    (h : e.message = Event.routeText d route) (level : Level) :
    e.tellsRoute level = (e.level == level) := by
  have hprefix : "Proxies for".toList <+: (Event.routeText d route).toList := by
    refine ⟨(" [" ++ d.text ++ "] : " ++ route.target.text).toList, ?_⟩
    simp [Event.routeText]
  rw [Event.tellsRoute, h, List.isPrefixOf_iff_prefix.mpr hprefix, Bool.and_true]

theorem tellsRoute_routeDecided (d : Destination) (route : Route) :
    (Event.routeDecided d route).tellsRoute .debug = true := by
  rw [tellsRoute_of_message rfl]
  rfl

theorem tellsRoute_routeReported (d : Destination) (route : Route) :
    (Event.routeReported d route).tellsRoute .info = true ∧
      (Event.routeReported d route).tellsRoute .debug = false := by
  rw [tellsRoute_of_message rfl, tellsRoute_of_message rfl]
  exact ⟨rfl, rfl⟩

/-! ## Step -/

namespace Router

/-- The decisions that are kept are for the destinations of the requests, one for each. -/
structure Remembers (r : Router) (requests : List Request) : Prop where
  nodup : (r.decided.map Prod.fst).Nodup
  toFinset : (r.decided.map Prod.fst).toFinset = destinations requests

theorem remembers_new (rules : List Rule) (print : Bool) (exclusions : List String) :
    ((new rules).withReporting print exclusions).Remembers [] :=
  ⟨List.nodup_nil, rfl⟩

variable {r : Router} {requests : List Request} {q : Request} {d : Destination}

theorem Remembers.decidedCount (h : r.Remembers requests) :
    r.decidedCount = (destinations requests).card := by
  rw [← h.toFinset, List.toFinset_card_of_nodup h.nodup, List.length_map]
  rfl

theorem lookup_decided_eq_none_iff :
    r.decided.lookup d = none ↔ d ∉ r.decided.map Prod.fst := by
  rw [List.lookup_eq_none_iff]
  constructor
  · intro h hd
    obtain ⟨p, hp, rfl⟩ := List.mem_map.mp hd
    simpa using h p hp
  · intro h p hp
    have hne : d ≠ p.1 := fun he => h (List.mem_map.mpr ⟨p, hp, he.symm⟩)
    simpa using hne

theorem Remembers.lookup_eq_none_iff (h : r.Remembers requests) :
    r.decided.lookup d = none ↔ d ∉ destinations requests := by
  rw [← h.toFinset, List.mem_toFinset]
  exact lookup_decided_eq_none_iff

/-- What is told of a request for a destination: the decision if it is the first such request, and
the answer if the router reports it. -/
theorem Remembers.resolve_events (h : r.Remembers requests) (ha : r.Agrees) (d : Destination) :
    (r.resolve d).events =
      (if d ∈ destinations requests then [] else [.routeDecided d (.among r.rules d)]) ++
        (if r.alwaysPrint = true ∧ d.host ∉ r.printExclusions
          then [.routeReported d (.among r.rules d)] else []) := by
  have hreport : r.report d (.among r.rules d) = if r.alwaysPrint = true ∧ d.host ∉ r.printExclusions
      then [.routeReported d (.among r.rules d)] else [] := by
    simp [report, reports]
  rw [← hreport]
  cases hd : r.decided.lookup d with
  | some route =>
    have hmem : d ∈ destinations requests := by
      by_contra hn
      rw [h.lookup_eq_none_iff.mpr hn] at hd
      cases hd
    have hroute : route = .among r.rules d := ha _ (lookup_mem hd)
    rw [resolve_hit hd, if_pos hmem, hroute]
    rfl
  | none =>
    rw [resolve_miss hd, if_neg (h.lookup_eq_none_iff.mp hd)]
    rfl

theorem Remembers.resolve (h : r.Remembers requests) (hq : q.destination? = some d) :
    (r.resolve d).router.Remembers (requests ++ [q]) := by
  cases hd : r.decided.lookup d with
  | some route =>
    have hmem : d ∈ destinations requests := by
      by_contra hn
      rw [h.lookup_eq_none_iff.mpr hn] at hd
      cases hd
    rw [resolve_hit hd]
    refine ⟨h.nodup, ?_⟩
    rw [destinations_append_some requests hq, Finset.insert_eq_of_mem hmem, h.toFinset]
  | none =>
    rw [resolve_miss hd]
    refine ⟨?_, ?_⟩
    · rw [List.map_cons]
      exact List.nodup_cons.mpr ⟨lookup_decided_eq_none_iff.mp hd, h.nodup⟩
    · rw [List.map_cons, List.toFinset_cons, h.toFinset, destinations_append_some requests hq]

/-- Only a request for a destination changes what is kept, and by no more than that destination. -/
theorem Remembers.answer (h : r.Remembers requests) (q : Request) :
    (r.answer q).router.Remembers (requests ++ [q]) := by
  rcases q.answer_eq_ask with ⟨d?, f, hd, hask⟩ | ⟨hnone, uri, cause, rfl⟩
  · rw [hask]
    cases d? with
    | error e =>
      refine ⟨h.nodup, ?_⟩
      rw [destinations_append_none requests hd.symm]
      exact h.toFinset
    | ok d => exact h.resolve hd.symm
  · refine ⟨h.nodup, ?_⟩
    rw [destinations_append_none requests hnone]
    exact h.toFinset

/-- A refused request is not told of and changes nothing. -/
theorem answer_error {e : Error} (h : (r.answer q).value = .error e) :
    (r.answer q).events = [] ∧ (r.answer q).router = r := by
  rcases q.answer_eq_ask with ⟨d?, f, -, hask⟩ | ⟨-, uri, cause, rfl⟩
  · rw [hask] at h ⊢
    cases d? with
    | error e' => exact ⟨rfl, rfl⟩
    | ok d => cases h
  · cases h

theorem answer_of_destination (hq : q.destination? = some d) :
    ∃ f : Route → Reply, r.answer q = (r.resolve d).map fun route => .ok (f route) := by
  rcases q.answer_eq_ask with ⟨d?, f, hd, hask⟩ | ⟨hnone, -⟩
  · rw [hq] at hd
    cases d? with
    | error e => cases hd
    | ok d' =>
      cases hd
      exact ⟨f, hask r⟩
  · rw [hnone] at hq
    cases hq

theorem answer_of_none (hq : q.destination? = none) :
    (r.answer q).events.countP (Event.tellsRoute .debug) = 0 := by
  rcases q.answer_eq_ask with ⟨d?, f, hd, hask⟩ | ⟨-, uri, cause, rfl⟩
  · rw [hask]
    cases d? with
    | error e => rfl
    | ok d =>
      rw [hq] at hd
      cases hd
  · rfl

/-- One request tells of as many decisions as it has the router make. -/
theorem Remembers.countP_answer (h : r.Remembers requests) (ha : r.Agrees) (q : Request) :
    (destinations requests).card + (r.answer q).events.countP (Event.tellsRoute .debug) =
      (destinations (requests ++ [q])).card := by
  cases hq : q.destination? with
  | none => rw [answer_of_none hq, destinations_append_none requests hq, Nat.add_zero]
  | some d =>
    obtain ⟨f, hf⟩ := answer_of_destination (r := r) hq
    have hreported : List.countP (Event.tellsRoute .debug)
        (if r.alwaysPrint = true ∧ d.host ∉ r.printExclusions
          then [.routeReported d (.among r.rules d)] else []) = 0 := by
      split
      · simp [(tellsRoute_routeReported d (.among r.rules d)).2]
      · rfl
    have hevents : (r.answer q).events = (r.resolve d).events := by rw [hf]; rfl
    rw [hevents, h.resolve_events ha, List.countP_append, hreported,
      destinations_append_some requests hq]
    by_cases hmem : d ∈ destinations requests
    · rw [if_pos hmem, Finset.insert_eq_of_mem hmem]
      rfl
    · rw [if_neg hmem, Finset.card_insert_of_notMem hmem, List.countP_singleton,
        if_pos (tellsRoute_routeDecided d _)]

/-! ## Run -/

theorem answer_reporting (r : Router) (q : Request) :
    (r.answer q).router.alwaysPrint = r.alwaysPrint ∧
      (r.answer q).router.printExclusions = r.printExclusions := by
  rcases q.answer_eq_ask with ⟨d?, f, -, hask⟩ | ⟨-, uri, cause, rfl⟩
  · rw [hask]
    cases d? with
    | error e => exact ⟨rfl, rfl⟩
    | ok d =>
      show (r.resolve d).router.alwaysPrint = _ ∧ (r.resolve d).router.printExclusions = _
      cases hd : r.decided.lookup d with
      | some route => rw [resolve_hit hd]; exact ⟨rfl, rfl⟩
      | none => rw [resolve_miss hd]; exact ⟨rfl, rfl⟩
  · exact ⟨rfl, rfl⟩

theorem after_reporting (requests : List Request) : ∀ r : Router,
    (r.after requests).alwaysPrint = r.alwaysPrint ∧
      (r.after requests).printExclusions = r.printExclusions := by
  induction requests with
  | nil => intro r; exact ⟨rfl, rfl⟩
  | cons q requests ih =>
    intro r
    obtain ⟨hprint, hexclusions⟩ := ih (r.answer q).router
    obtain ⟨hprint', hexclusions'⟩ := answer_reporting r q
    exact ⟨hprint.trans hprint', hexclusions.trans hexclusions'⟩

/-- What is told in a run, from a router that remembers the requests before it. -/
theorem run_remembers (more : List Request) : ∀ {r : Router} {requests : List Request},
    r.Remembers requests → r.Agrees →
      (r.after more).Remembers (requests ++ more) ∧
      (destinations requests).card +
          ((r.run more).flatMap Answer.events).countP (Event.tellsRoute .debug) =
        (destinations (requests ++ more)).card := by
  induction more with
  | nil =>
    intro r requests h _
    rw [List.append_nil]
    exact ⟨h, rfl⟩
  | cons q more ih =>
    intro r requests h ha
    obtain ⟨hafter, hcount⟩ := ih (h.answer q) (answer_agrees ha q)
    rw [List.append_assoc, List.singleton_append] at hafter hcount
    refine ⟨hafter, ?_⟩
    rw [← hcount, ← h.countP_answer ha q, run, List.flatMap_cons, List.countP_append,
      Nat.add_assoc]

/-! ## Top theorem -/

/-- **What is kept and told in a run.**  After every request as many decisions are kept, and have
been told, as there are destinations that were asked for.  The next request is told of as follows: a
refused one not at all, and it changes nothing; one for a destination by its decision if it is the
first, and then by its answer if answers are reported and the host is not excluded; a failed
connection by a warning, and it changes nothing. -/
theorem run_tells_decisions_once (rules : List Rule) (print : Bool) (exclusions : List String)
    (requests : List Request) :
    let fresh := (new rules).withReporting print exclusions
    let r := fresh.after requests
    let told := (fresh.run requests).flatMap Answer.events
    r.decidedCount = (destinations requests).card ∧
    told.countP (Event.tellsRoute .debug) = (destinations requests).card ∧
    ∀ q,
      (∀ e, (r.answer q).value = .error e → (r.answer q).events = [] ∧ (r.answer q).router = r) ∧
      (∀ d, q.destination? = some d → (∃ reply, (r.answer q).value = .ok reply) ∧
        ∃ decided reported, (r.answer q).events = decided ++ reported ∧
          decided = (if d ∈ destinations requests then [] else
            [.routeDecided d (.among rules d)]) ∧
          reported = (if print = true ∧ d.host ∉ exclusions then
            [.routeReported d (.among rules d)] else []) ∧
          (∀ e ∈ decided, e.tellsRoute .debug = true) ∧
          ∀ e ∈ reported, e.tellsRoute .info = true) ∧
      ∀ uri cause, q = .connectFailed uri cause → (r.answer q).router = r ∧
        ∃ e : Event, (r.answer q).events = [e] ∧ e.level = .warn := by
  intro fresh r told
  have hnew := remembers_new rules print exclusions
  have hagrees := agrees_new rules print exclusions
  obtain ⟨hafter, hcount⟩ := run_remembers requests hnew hagrees
  rw [List.nil_append] at hafter hcount
  refine ⟨hafter.decidedCount, ?_, fun q => ⟨fun e => answer_error, fun d hq => ?_, ?_⟩⟩
  · rw [← hcount]
    exact (Nat.zero_add _).symm
  · obtain ⟨f, hf⟩ := answer_of_destination (r := r) hq
    rw [hf]
    refine ⟨⟨_, rfl⟩, _, _, hafter.resolve_events (after_agrees requests hagrees) d, ?_, ?_, ?_, ?_⟩
    · rw [after_rules]
      rfl
    · rw [after_rules, (after_reporting requests _).1, (after_reporting requests _).2]
      rfl
    · intro e he
      split at he
      · cases he
      · rw [List.mem_singleton.mp he]
        exact tellsRoute_routeDecided _ _
    · intro e he
      split at he
      · rw [List.mem_singleton.mp he]
        exact (tellsRoute_routeReported _ _).1
      · cases he
  · rintro uri cause rfl
    exact ⟨rfl, _, rfl, rfl⟩

/-- Two destinations, one of them asked for twice, with a refused request and a failed connection
between. -/
theorem run_tells_decisions_once_repeated :
    let requests : List Request := [.resolve "git" "a", .select "" "a",
      .connectFailed "git://a/" "refused", .selectUri "git://a:80/x", .select "ftp" "b"]
    let fresh := (new []).withReporting true ["b"]
    let r := fresh.after requests
    r.decidedCount = 2 ∧
    ((fresh.run requests).flatMap Answer.events).countP (Event.tellsRoute .debug) = 2 ∧
    ((r.answer (.select "http" "")).events = [] ∧ (r.answer (.select "http" "")).router = r) ∧
    (∃ decided reported, (r.answer (.select "ftp" "a")).events = decided ++ reported ∧
      decided = [.routeDecided ⟨"ftp", "a", by decide, by decide⟩ .direct] ∧
      reported = [.routeReported ⟨"ftp", "a", by decide, by decide⟩ .direct]) ∧
    (r.answer (.connectFailed "b" "refused")).router = r := by
  intro requests fresh r
  have hcard : (destinations requests).card = 2 := by decide +kernel
  obtain ⟨hcount, htold, hnext⟩ := run_tells_decisions_once [] true ["b"] requests
  obtain ⟨-, hasked, -⟩ := hnext (.select "ftp" "a")
  obtain ⟨-, decided, reported, hevents, hdecided, hreported, -, -⟩ := hasked _ rfl
  refine ⟨hcount.trans hcard, htold.trans hcard, (hnext (.select "http" "")).1 _ rfl,
    ⟨decided, reported, hevents, ?_, ?_⟩, ((hnext _).2.2 "b" "refused" rfl).1⟩
  · rw [hdecided, if_neg (by decide +kernel)]
    rfl
  · rw [hreported, if_pos (by decide)]
    rfl

end Router

end ProxyRouting
