import ProxyRouting.Gateway
import ProxyRouting.Proofs.Settings.RoundTrip

/-!
# Without the text of passwords

`masked` puts stars in the place of each password that is there and leaves the rest alone.  So two
values are masked alike exactly if they differ in nothing but the text of passwords that both have.
Masking changes nothing that is shown or written, and it does not matter whether records are masked
before their credentials are registered or the store after it:

    r.masked.compile = r.compile
    Gateway.register s.masked r.masked = (Gateway.register s r).masked
-/

namespace ProxyRouting

/-- What stands for any password. -/
def passwordMask : String := "***"

/-! ## Credentials -/

def Credential.masked (c : Credential) : Credential :=
  { c with password := passwordMask }

namespace CredentialStore

def masked (s : CredentialStore) : CredentialStore :=
  ⟨s.entries.map fun e => (e.1, e.2.masked)⟩

theorem insert_masked (key : String) (c : Credential) (entries : List (String × Credential)) :
    insert key c.masked (entries.map fun e => (e.1, e.2.masked)) =
      (insert key c entries).map fun e => (e.1, e.2.masked) := by
  induction entries with
  | nil => rfl
  | cons e entries ih =>
    rw [List.map_cons, insert, insert, ih]
    by_cases he : e.1 = key
    · rw [if_pos he, if_pos he, List.map_cons]
    · rw [if_neg he, if_neg he, List.map_cons]

theorem add_masked (s : CredentialStore) (key : String) (c : Credential) :
    s.masked.add key c.masked = (s.add key c).masked :=
  congrArg mk (insert_masked key c s.entries)

theorem find?_masked (s : CredentialStore) (key : String) :
    s.masked.find? key = (s.find? key).map Credential.masked := by
  obtain ⟨entries⟩ := s
  unfold find? masked
  induction entries with
  | nil => rfl
  | cons e entries ih =>
    rw [List.map_cons, List.lookup_cons, List.lookup_cons, ih]
    cases key == e.1 <;> rfl

theorem size_masked (s : CredentialStore) : s.masked.size = s.size :=
  List.length_map _

theorem isEmpty_masked (s : CredentialStore) : s.masked.isEmpty = s.isEmpty :=
  List.isEmpty_map

end CredentialStore

/-! ## Records -/

namespace ServerRecord

def masked (r : ServerRecord) : ServerRecord :=
  { r with password := r.password.map fun _ => passwordMask }

theorem inspect_masked (r : ServerRecord) : r.masked.inspect = r.inspect := by
  unfold inspect masked
  rw [Option.map_map]
  rfl

theorem compile_masked (r : ServerRecord) : r.masked.compile = r.compile :=
  rfl

end ServerRecord

theorem compileFrom_masked (records : List ServerRecord) :
    ∀ index, compileFrom index (records.map ServerRecord.masked) = compileFrom index records := by
  induction records with
  | nil => exact fun _ => rfl
  | cons r records ih =>
    intro index
    rw [List.map_cons, compileFrom, compileFrom, r.compile_masked, ih]

namespace Gateway

theorem register_masked (store : CredentialStore) (r : ServerRecord) :
    register store.masked r.masked = (register store r).masked := by
  have hkey : r.masked.hostPort? = r.hostPort? := rfl
  unfold register
  rw [hkey]
  cases r.hostPort? with
  | none => rfl
  | some key =>
    cases huser : r.username with
    | none => simp only [ServerRecord.masked, huser]
    | some user =>
      cases hpass : r.password with
      | none => simp only [ServerRecord.masked, huser, hpass, Option.map_none]
      | some pass =>
        simp only [ServerRecord.masked, huser, hpass, Option.map_some]
        exact store.add_masked key ⟨user, pass⟩

theorem foldl_register_masked (records : List ServerRecord) :
    ∀ store : CredentialStore,
      (records.map ServerRecord.masked).foldl register store.masked =
        (records.foldl register store).masked := by
  induction records with
  | nil => exact fun _ => rfl
  | cons r records ih =>
    intro store
    rw [List.map_cons, List.foldl_cons, register_masked, ih, List.foldl_cons]

end Gateway

/-! ## Settings -/

namespace Settings

def masked (s : Settings) : Settings :=
  { s with servers := s.servers.map ServerRecord.masked }

theorem inspect_masked (s : Settings) : s.masked.inspect = s.inspect := by
  simp only [inspect, masked, List.map_map, Function.comp_def, ServerRecord.inspect_masked]

/-- No password is written, so none has to be masked for it. -/
theorem toText_masked (s : Settings) : s.masked.toText = s.toText := by
  have hservers : (s.servers.map ServerRecord.masked).map ServerRecord.withoutPassword =
      s.servers.map ServerRecord.withoutPassword := List.map_map
  rw [← toText_withoutPasswords, ← s.toText_withoutPasswords]
  simp only [withoutPasswords, masked, hservers]

end Settings

/-! ## Variables -/

namespace ProxyVariable

def masked (v : ProxyVariable) : ProxyVariable :=
  { v with password := v.password.map fun _ => passwordMask }

theorem inspect_masked (v : ProxyVariable) : v.masked.inspect = v.inspect := by
  unfold inspect masked
  rw [Option.map_map]
  rfl

theorem value_masked (v : ProxyVariable) : v.masked.value = v.value :=
  rfl

theorem name_masked (v : ProxyVariable) : v.masked.name = v.name :=
  rfl

/-- A rule is made without the credentials. -/
theorem toServer_masked (v : ProxyVariable) : v.masked.toServer = v.toServer :=
  rfl

end ProxyVariable

theorem Gateway.registerVariable_masked (store : CredentialStore) (v : ProxyVariable) :
    registerVariable store.masked v.masked = (registerVariable store v).masked := by
  unfold registerVariable ProxyVariable.masked
  cases v.username with
  | none => rfl
  | some user =>
    cases v.password with
    | none => rfl
    | some pass => exact store.add_masked (hostPort v.host v.port) ⟨user, pass⟩

end ProxyRouting
