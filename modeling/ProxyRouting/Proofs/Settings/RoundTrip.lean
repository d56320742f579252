import ProxyRouting.Proofs.Settings.Written

/-!
# Settings survive writing, but for passwords

A written record gives each field of its draft its value back, in the order of the fields; a written
settings object does the same with the records.  Passwords are not written and so not read:

    Settings.ofText s.toText = ok s.withoutPasswords
-/

namespace ProxyRouting

open Json

/-! ## Kinds and lists of texts -/

theorem reads_kind (k : ProxyKind) : Reads readKind (quoted k.name) k := by
  intro rest hrest
  have hname : ProxyKind.ofText k.name = .ok k := by cases k <;> decide
  simp only [readKind, reads_string k.name rest hrest, hname, bind, Except.bind, pure, Except.pure]

theorem reads_strings (texts : List String) :
    Reads (readList readString) (writeList quoted texts) texts :=
  reads_list texts fun s _ => ⟨reads_string s, opens_quoted s⟩

theorem reads_string? (s? : Option String) :
    Reads (readOption readString) (writeOption quoted s?) s? :=
  reads_option s? fun s _ => ⟨reads_string s, opens_quoted s⟩

theorem reads_port? (port? : Option UInt16) :
    Reads (readOption readPort) (writeOption writePort port?) port? :=
  reads_option port? fun port _ => ⟨reads_port port, opens_port port⟩

/-! ## Records -/

namespace ServerRecord

/-- What is read of a written record. -/
def draft (r : ServerRecord) : ServerDraft where
  kind := some r.kind
  host := some r.host
  port := some r.port
  username := some r.username
  password := none
  forHosts := some r.forHosts
  notForHosts := some r.notForHosts
  forProtocols := some r.forProtocols

theorem fills_draft (r : ServerRecord) : Fills ServerDraft.fields .empty
    [("type", quoted r.kind.name), ("host", writeOption quoted r.host),
      ("port", writeOption writePort r.port), ("username", writeOption quoted r.username),
      ("forHosts", writeList quoted r.forHosts), ("notForHosts", writeList quoted r.notForHosts),
      ("forProtocols", writeList quoted r.forProtocols)] r.draft :=
  .cons (takes_of rfl rfl (reads_kind r.kind)) <|
  .cons (takes_of rfl rfl (reads_string? r.host)) <|
  .cons (takes_of rfl rfl (reads_port? r.port)) <|
  .cons (takes_of rfl rfl (reads_string? r.username)) <|
  .cons (takes_of rfl rfl (reads_strings r.forHosts)) <|
  .cons (takes_of rfl rfl (reads_strings r.notForHosts)) <|
  .cons (takes_of rfl rfl (reads_strings r.forProtocols)) .nil

theorem reads_write (r : ServerRecord) : Reads readServer r.write r.withoutPassword := by
  intro rest hrest
  have hrecord := reads_record "struct ProxyServerConfig" r.fills_draft rest hrest
  rw [readServer, write, hrecord]
  rfl

theorem write_withoutPassword (r : ServerRecord) : r.withoutPassword.write = r.write :=
  rfl

theorem withoutPassword_eq_self_iff (r : ServerRecord) :
    r.withoutPassword = r ↔ r.password = none := by
  constructor
  · intro h
    rw [← h]
    rfl
  · intro h
    rw [withoutPassword, ← h]

end ServerRecord

theorem writeList_withoutPassword (records : List ServerRecord) :
    writeList ServerRecord.write (records.map ServerRecord.withoutPassword) =
      writeList ServerRecord.write records := by
  simp only [writeList, List.map_map, Function.comp_def, ServerRecord.write_withoutPassword]

/-- The list that is read back is the one without passwords, which is written alike. -/
theorem reads_servers (records : List ServerRecord) :
    Reads (readList readServer) (writeList ServerRecord.write records)
      (records.map ServerRecord.withoutPassword) := by
  rw [← writeList_withoutPassword]
  refine reads_list _ (List.forall_mem_map.mpr fun r _ => ?_)
  exact ⟨r.withoutPassword.reads_write, opens_object _⟩

/-! ## Settings -/

namespace Settings

/-- What is read of written settings. -/
def draft (s : Settings) : SettingsDraft where
  enabled := some s.enabled
  alwaysPrint := some s.alwaysPrint
  printExclusions := some s.printExclusions
  servers := some (s.servers.map ServerRecord.withoutPassword)

theorem fills_draft (s : Settings) : Fills SettingsDraft.fields .empty
    [("enabled", writeBool s.enabled), ("alwaysPrint", writeBool s.alwaysPrint),
      ("printExclusions", writeList quoted s.printExclusions),
      ("servers", writeList ServerRecord.write s.servers)] s.draft :=
  .cons (takes_of rfl rfl (reads_bool s.enabled)) <|
  .cons (takes_of rfl rfl (reads_bool s.alwaysPrint)) <|
  .cons (takes_of rfl rfl (reads_strings s.printExclusions)) <|
  .cons (takes_of rfl rfl (reads_servers s.servers)) .nil

theorem reads_write (s : Settings) : Reads readSettings s.write s.withoutPasswords := by
  intro rest hrest
  have hrecord := reads_record "struct NetworkProxySettings" s.fills_draft rest hrest
  rw [readSettings, write, hrecord]
  rfl

theorem ofText_toText_withoutPasswords (s : Settings) :
    ofText s.toText = .ok s.withoutPasswords := by
  have hread := s.reads_write [] (by rintro c ⟨⟩)
  rw [List.append_nil] at hread
  rw [ofText, readAll, toText, String.toList_ofList, hread]
  rfl

theorem toText_withoutPasswords (s : Settings) : s.withoutPasswords.toText = s.toText := by
  simp only [toText, write, withoutPasswords, writeList_withoutPassword]

theorem withoutPasswords_eq_self_iff (s : Settings) :
    s.withoutPasswords = s ↔ ∀ r ∈ s.servers, r.password = none := by
  calc s.withoutPasswords = s
    _ ↔ s.servers.map ServerRecord.withoutPassword = s.servers := by
      obtain ⟨enabled, alwaysPrint, printExclusions, servers⟩ := s
      simp [withoutPasswords]
    _ ↔ s.servers.map ServerRecord.withoutPassword = s.servers.map id := by rw [List.map_id]
    _ ↔ ∀ r ∈ s.servers, r.withoutPassword = r := List.map_inj_left
    _ ↔ ∀ r ∈ s.servers, r.password = none :=
      forall₂_congr fun r _ => r.withoutPassword_eq_self_iff

/-- Written settings are always read, and read as they were but for the passwords, of which there
are none any more; written again, they give the same text. -/
theorem ofText_toText (s : Settings) :
    ofText s.toText =
        .ok { s with servers := s.servers.map fun r => { r with password := none } } ∧
      (ofText s.toText = .ok s ↔ ∀ r ∈ s.servers, r.password = none) ∧
      (ofText s.toText).map toText = .ok s.toText := by
  have hread := s.ofText_toText_withoutPasswords
  refine ⟨hread, ?_, ?_⟩
  · rw [hread, Except.ok.injEq]
    exact s.withoutPasswords_eq_self_iff
  · rw [hread, Except.map, toText_withoutPasswords]

end Settings

end ProxyRouting
