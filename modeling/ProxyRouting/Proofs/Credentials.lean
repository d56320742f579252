import ProxyRouting.Proofs.Gateway
import ProxyRouting.Proofs.Text.Cut

/-!
# Which credential a proxy gets

Credentials are kept under one text of host and port.  That text is of one host and one port only,
colons in the host or not, so a proxy gets the credential of the last source that is for it, and
of no other:

    hostPort a p = hostPort b q → a = b ∧ p = q
    g.credential? host port = some c ↔ LastFor (sources env settings) host port c
-/

namespace ProxyRouting

/-! ## Host and port as one text -/

theorem digits_inj {m n : Nat} (h : Nat.toDigits 10 m = Nat.toDigits 10 n) : m = n := by
  have := congrArg (fun ds => Nat.ofDigitChars 10 ds 0) h
  simpa only [Nat.ofDigitChars_ten_toDigits] using this

theorem colon_notMem_digits (n : Nat) : ':' ∉ Nat.toDigits 10 n := by
  intro h
  have := Nat.isDigit_of_mem_toDigits (by decide) (by decide) h
  revert this
  decide

theorem hostPort_toList (host : String) (port : UInt16) :
    (hostPort host port).toList = host.toList ++ ':' :: Nat.toDigits 10 port.toNat := by
  simp [hostPort]

/-- The last colon is the one before the port. -/
theorem hostPort_inj {a b : String} {p q : UInt16} (h : hostPort a p = hostPort b q) :
    a = b ∧ p = q := by
  have hlists := congrArg String.toList h
  rw [hostPort_toList, hostPort_toList] at hlists
  have hcut := congrArg (Text.cutLast? ':') hlists
  rw [Text.cutLast?_append (colon_notMem_digits _), Text.cutLast?_append (colon_notMem_digits _),
    Option.some.injEq, Prod.mk.injEq] at hcut
  exact ⟨String.toList_inj.mp hcut.1, UInt16.toNat_inj.mp (digits_inj hcut.2)⟩

/-! ## The store -/

namespace CredentialStore

theorem lookup_insert (key k : String) (c : Credential) :
    ∀ entries : List (String × Credential),
      (insert key c entries).lookup k = if k = key then some c else entries.lookup k := by
  intro entries
  induction entries with
  | nil =>
    rw [insert, List.lookup_cons]
    by_cases hk : k = key
    · simp [hk]
    · have hkk : (k == key) = false := by simpa using hk
      rw [hkk, if_neg hk]
  | cons e entries ih =>
    rw [insert]
    by_cases he : e.1 = key
    · rw [if_pos he]
      by_cases hk : k = key
      · simp [hk]
      · have hke : (k == e.1) = false := by rw [he]; simpa using hk
        have hkk : (k == key) = false := by simpa using hk
        rw [List.lookup_cons, hkk, if_neg hk, List.lookup_cons, hke]
    · rw [if_neg he, List.lookup_cons, List.lookup_cons, ih]
      by_cases hke : k = e.1
      · simp [hke, he]
      · have hke' : (k == e.1) = false := by simpa using hke
        rw [hke']

/-- The later of two credentials for one key counts. -/
theorem find?_add (s : CredentialStore) (key k : String) (c : Credential) :
    (s.add key c).find? k = if k = key then some c else s.find? k :=
  lookup_insert key k c s.entries

theorem isEmpty_add (s : CredentialStore) (key : String) (c : Credential) :
    (s.add key c).isEmpty = false := by
  unfold isEmpty add
  cases hs : s.entries with
  | nil => rfl
  | cons e entries =>
    rw [insert]
    split <;> rfl

theorem lookup_fst (s : CredentialStore) (host : String) (port : UInt16) :
    (s.lookup host port).1 = s.find? (hostPort host port) := by
  unfold lookup
  cases hc : s.find? (hostPort host port) with
  | none => simp only [hc]
  | some c => simp only [hc]

end CredentialStore

/-! ## Records with credentials -/

namespace ServerRecord

/-- Username and password, where the record has both. -/
def credential? (r : ServerRecord) : Option Credential := do
  return ⟨← r.username, ← r.password⟩

/-- The host and the port of the record are these. -/
def IsFor (r : ServerRecord) (host : String) (port : UInt16) : Prop :=
  r.host = some host ∧ r.port = some port

instance (r : ServerRecord) (host : String) (port : UInt16) : Decidable (r.IsFor host port) :=
  inferInstanceAs (Decidable (_ ∧ _))

theorem hostPort?_eq_some_iff {r : ServerRecord} {host : String} {port : UInt16} :
    r.hostPort? = some (hostPort host port) ↔ r.IsFor host port := by
  unfold hostPort? IsFor
  cases hhost : r.host with
  | none => simp
  | some a =>
    cases hport : r.port with
    | none => simp
    | some p =>
      simp only [Option.bind_eq_bind, Option.bind_some, Option.pure_def, Option.some.injEq]
      constructor
      · exact hostPort_inj
      · rintro ⟨rfl, rfl⟩
        rfl

end ServerRecord

namespace Gateway

theorem register_find? (s : CredentialStore) (r : ServerRecord) (host : String) (port : UInt16) :
    (∃ c, r.IsFor host port ∧ r.credential? = some c ∧
      (register s r).find? (hostPort host port) = some c) ∨
    ((r.IsFor host port → r.credential? = none) ∧
      (register s r).find? (hostPort host port) = s.find? (hostPort host port)) := by
  unfold register ServerRecord.credential?
  rw [← ServerRecord.hostPort?_eq_some_iff]
  cases hkey : r.hostPort? with
  | none => right; simp
  | some key =>
    cases huser : r.username with
    | none => right; simp
    | some user =>
      cases hpass : r.password with
      | none => right; simp
      | some pass =>
        by_cases hk : hostPort host port = key
        · left
          refine ⟨⟨user, pass⟩, by rw [hk], rfl, ?_⟩
          show (s.add key ⟨user, pass⟩).find? _ = _
          rw [CredentialStore.find?_add, if_pos hk]
        · right
          refine ⟨fun h => absurd (Option.some.inj h).symm hk, ?_⟩
          show (s.add key ⟨user, pass⟩).find? _ = _
          rw [CredentialStore.find?_add, if_neg hk]

/-- The credential is that of the last record that is for the host and the port and has one. -/
def LastFor (records : List ServerRecord) (host : String) (port : UInt16) (c : Credential) : Prop :=
  ∃ before r after, records = before ++ r :: after ∧ r.IsFor host port ∧
    r.credential? = some c ∧ ∀ r' ∈ after, r'.IsFor host port → r'.credential? = none

section
variable (host : String) (port : UInt16)

/-- What registering some records changes for a proxy. -/
theorem foldl_register_find? (records : List ServerRecord) : ∀ s : CredentialStore,
    (∃ c, LastFor records host port c ∧
      (records.foldl register s).find? (hostPort host port) = some c) ∨
    ((∀ r ∈ records, r.IsFor host port → r.credential? = none) ∧
      (records.foldl register s).find? (hostPort host port) =
        s.find? (hostPort host port)) := by
  induction records with
  | nil =>
    intro s
    exact Or.inr ⟨fun r hr => absurd hr List.not_mem_nil, rfl⟩
  | cons r records ih =>
    intro s
    rw [List.foldl_cons]
    rcases ih (register s r) with ⟨c, ⟨before, r', after, hrec, hr'⟩, hfind⟩ | ⟨hnone, hfind⟩
    · left
      exact ⟨c, ⟨r :: before, r', after, by rw [hrec]; rfl, hr'⟩, hfind⟩
    · rw [hfind]
      rcases register_find? s r host port with ⟨c, hfor, hc, hr⟩ | ⟨hr, hsame⟩
      · exact Or.inl ⟨c, ⟨[], r, records, rfl, hfor, hc, hnone⟩, hr⟩
      · right
        refine ⟨fun r' hr' => ?_, hsame⟩
        rcases List.mem_cons.mp hr' with rfl | hr'
        · exact hr
        · exact hnone r' hr'

theorem LastFor.exists {records : List ServerRecord} {c : Credential}
    (h : LastFor records host port c) :
    ∃ r ∈ records, r.IsFor host port ∧ r.credential? = some c := by
  obtain ⟨before, r, after, rfl, hfor, hc, -⟩ := h
  exact ⟨r, by simp, hfor, hc⟩

theorem LastFor.unique {records : List ServerRecord} {c c' : Credential}
    (h : LastFor records host port c) (h' : LastFor records host port c') : c = c' := by
  obtain ⟨before, r, after, rfl, hfor, hc, hafter⟩ := h
  obtain ⟨before', r', after', heq, hfor', hc', hafter'⟩ := h'
  rcases List.append_eq_append_iff.mp heq with ⟨mid, rfl, hmid⟩ | ⟨mid, rfl, hmid⟩
  · cases mid with
    | nil =>
      cases hmid
      rw [hc] at hc'
      exact Option.some.inj hc'
    | cons x mid =>
      cases hmid
      rw [hafter r' (by simp) hfor'] at hc'
      cases hc'
  · cases mid with
    | nil =>
      cases hmid
      rw [hc] at hc'
      exact Option.some.inj hc'
    | cons x mid =>
      cases hmid
      rw [hafter' r (by simp) hfor] at hc
      cases hc

end

/-! ## Gateways -/

/-- The credential that a gateway has for a proxy; there is none without a store. -/
def credential? (g : Gateway) (host : String) (port : UInt16) : Option Credential :=
  g.credentials.bind fun s => (s.lookup host port).1

theorem register_isEmpty (s : CredentialStore) {r : ServerRecord} {rule : Rule}
    (h : r.compile = .ok rule) :
    (register s r).isEmpty = true ↔ s.isEmpty = true ∧ r.credential? = none := by
  obtain ⟨-, hhost, hport⟩ := (ServerRecord.compile_ok h).2.2.1
  have hkey : r.hostPort? = some (hostPort rule.endpoint.host rule.endpoint.port) :=
    ServerRecord.hostPort?_eq_some_iff.mpr ⟨hhost, hport⟩
  unfold register ServerRecord.credential?
  rw [hkey]
  cases r.username with
  | none => simp
  | some user =>
    cases r.password with
    | none => simp
    | some pass => simp [CredentialStore.isEmpty_add]

theorem foldl_register_isEmpty {records : List ServerRecord} {rules : List Rule}
    (h : List.Forall₂ (fun r rule => ServerRecord.compile r = .ok rule) records rules) :
    ∀ s : CredentialStore, (records.foldl register s).isEmpty = true ↔
      s.isEmpty = true ∧ ∀ r ∈ records, r.credential? = none := by
  induction h with
  | nil => intro s; simp
  | cons hr _ ih =>
    intro s
    rw [List.foldl_cons, ih, register_isEmpty s hr, List.forall_mem_cons, and_assoc]

/-- With a store or without, a gateway has the credentials that its sources register. -/
theorem credential?_ofDraft {records : List ServerRecord} {draft : Draft}
    (h : IsDraftOf records draft) (settings : Settings) (host : String) (port : UInt16) :
    (ofDraft settings draft).1.credential? host port =
      (records.foldl register .empty).find? (hostPort host port) := by
  rw [← h.credentials]
  unfold credential? ofDraft
  cases hempty : draft.credentials.isEmpty with
  | false => simp [CredentialStore.lookup_fst]
  | true =>
    have : draft.credentials.entries = [] := List.isEmpty_iff.mp hempty
    simp [CredentialStore.find?, this]

/-! ## Top theorem -/

/-- **Credentials of proxies.**  A proxy gets the credential of the last source for its host and
port that has one, and none where no source has; there is a store just where some source has a
credential; and on every route, after whatever requests, the proxy of a source with a credential
gets one. -/
theorem credential?_eq_some_iff_lastFor {env : Environment} {settings : Settings} {g : Gateway}
    {events : List Event} (h : ofSettings env settings = (.ok (some g), events)) :
    (∀ host port c,
      g.credential? host port = some c ↔ LastFor (sources env settings) host port c) ∧
    (∀ host port, g.credential? host port = none ↔
      ∀ r ∈ sources env settings, r.IsFor host port → r.credential? = none) ∧
    (g.credentials = none ↔ ∀ r ∈ sources env settings, r.credential? = none) ∧
    (∀ requests d i e, ((g.router.after requests).resolve d).value = .via i e →
      ∃ r, (sources env settings)[i]? = some r ∧ r.IsAt e ∧
        (r.credential?.isSome → (g.credential? e.host e.port).isSome)) := by
  obtain ⟨draft, hdraft, rfl⟩ := ofSettings_ok h
  have hfind := fun host port => foldl_register_find? host port (sources env settings) .empty
  have hsome : ∀ host port c, (ofDraft settings draft).1.credential? host port = some c ↔
      LastFor (sources env settings) host port c := by
    intro host port c
    rw [credential?_ofDraft hdraft]
    rcases hfind host port with ⟨c', hlast, hc'⟩ | ⟨hnone, hc'⟩
    · rw [hc', Option.some.injEq]
      constructor
      · rintro rfl
        exact hlast
      · exact fun hc => hlast.unique host port hc
    · rw [hc']
      constructor
      · intro hc
        cases hc
      · intro hc
        obtain ⟨r, hr, hfor, hrc⟩ := hc.exists host port
        rw [hnone r hr hfor] at hrc
        cases hrc
  have hnone : ∀ host port, (ofDraft settings draft).1.credential? host port = none ↔
      ∀ r ∈ sources env settings, r.IsFor host port → r.credential? = none := by
    intro host port
    rw [credential?_ofDraft hdraft]
    rcases hfind host port with ⟨c', hlast, hc'⟩ | ⟨hnone, hc'⟩
    · rw [hc']
      obtain ⟨r, hr, hfor, hrc⟩ := hlast.exists host port
      constructor
      · intro hc
        cases hc
      · intro hall
        rw [hall r hr hfor] at hrc
        cases hrc
    · rw [hc']
      exact ⟨fun _ => hnone, fun _ => rfl⟩
  refine ⟨hsome, hnone, ?_, ?_⟩
  · have hempty := foldl_register_isEmpty (compileRules_ok_iff.mp hdraft.rules) .empty
    rw [← hdraft.credentials] at hempty
    have hall : (draft.credentials.isEmpty = true) ↔
        ∀ r ∈ sources env settings, r.credential? = none := by
      rw [hempty]
      exact ⟨fun h => h.2, fun h => ⟨rfl, h⟩⟩
    rw [← hall]
    unfold ofDraft
    cases draft.credentials.isEmpty <;> simp
  · intro requests d i e hroute
    have hagrees := Router.after_agrees requests
      (Router.agrees_new draft.rules settings.alwaysPrint settings.printExclusions)
    rw [Router.resolve_value (r := (ofDraft settings draft).1.router.after requests) hagrees,
      Router.after_rules] at hroute
    have hfirst := among_firstServing hdraft.rules d
    have hrules : (ofDraft settings draft).1.router.rules = draft.rules := rfl
    rw [hrules] at hroute
    rw [hroute] at hfirst
    obtain ⟨r, hr, hat, -, -⟩ := hfirst
    refine ⟨r, hr, hat, fun hc => ?_⟩
    cases hg : (ofDraft settings draft).1.credential? e.host e.port with
    | some c => rfl
    | none =>
      rw [(hnone _ _).mp hg r (List.mem_of_getElem? hr) ⟨hat.2.1, hat.2.2⟩] at hc
      cases hc

/-- Two sources for one proxy, whose host has colons; the text of its key cut at another colon is
that of no source. -/
theorem credential?_eq_some_iff_lastFor_colons :
    let source (pass : String) : ServerRecord :=
      { ServerRecord.new "::1" 80 with
        username := some "u", password := some pass, forHosts := ["a"] }
    ∃ g events,
      ofSettings .empty ⟨true, false, [], [source "old", source "new"]⟩ = (.ok (some g), events) ∧
        g.credential? "::1" 80 = some ⟨"u", "new"⟩ ∧ g.credential? ":" 180 = none := by
  intro source
  obtain ⟨g, events, h⟩ : ∃ g events, ofSettings .empty
      ⟨true, false, [], [source "old", source "new"]⟩ = (.ok (some g), events) := ⟨_, _, rfl⟩
  obtain ⟨hsome, hnone, -⟩ := credential?_eq_some_iff_lastFor h
  refine ⟨g, events, h, (hsome _ _ _).mpr ?_, (hnone _ _).mpr (by decide)⟩
  exact ⟨[source "old"], source "new", [], rfl, ⟨rfl, rfl⟩, rfl, by decide⟩

end Gateway

end ProxyRouting
