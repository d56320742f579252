import Mathlib.Logic.Function.Basic
import ProxyRouting.Proofs.Text.Blank
import ProxyRouting.Proofs.Url.Percent
import ProxyRouting.Settings.Sources

/-!
# Settings of an environment that names a file

The value of a variable is bytes.  Where those of the file's variable are a text that is not blank,
the text is a path with blanks around it: settings are those of the file with the overrides put in,
and without such a file there are none.  Where they are no text, the variable counts as missing, and
with it the file.  Each override has a variable of its own, which changes no other field.

    files path = .error fault → ofEnvironment (.ofBytes values) files = .error (.file fault)
    files path = .ok text → ofText text = .ok s →
      ofEnvironment (.ofBytes values) files = .ok s', where Overridden values s s'
-/

namespace ProxyRouting

/-! ## Values of variables -/

theorem Environment.ofBytes_eq_some_iff {values : String → Option ByteArray} {name text : String} :
    ofBytes values name = some text ↔ values name = some text.toUTF8 := by
  unfold ofBytes
  rw [Option.bind_eq_some_iff]
  constructor
  · rintro ⟨bytes, hbytes, htext⟩
    rw [hbytes, ← Url.Percent.fromUTF8?_eq_some_iff.mp htext]
    rfl
  · exact fun h => ⟨_, h, Url.Percent.fromUTF8?_eq_some_iff.mpr rfl⟩

namespace Settings

open Environment (ofBytes ofBytes_eq_some_iff)

/-- The bytes are a text. -/
def IsText (bytes : ByteArray) : Prop :=
  ∃ text : String, bytes = text.toUTF8

/-- The bytes are a text with nothing but blanks in it. -/
def IsBlankText (bytes : ByteArray) : Prop :=
  ∃ text : String, bytes = text.toUTF8 ∧ ∀ c ∈ text.toList, Text.isBlank c = true

/-- The bytes are a word with blanks around it. -/
def Spells (bytes : ByteArray) (word : String) : Prop :=
  ∃ text : String, bytes = text.toUTF8 ∧ Text.IsPadded word.toList text.toList

/-- The bytes are the path of a file with blanks around it. -/
def NamesFile (bytes : ByteArray) (path : String) : Prop :=
  path ≠ "" ∧ Text.IsTrimmed path.toList ∧ Spells bytes path

/-! ## The path of the file -/

theorem filePath?_eq_some_iff {env : Environment} {path : String} : filePath? env = some path ↔
    ∃ text, env fileVariable = some text ∧ Text.trim text.toList = path.toList ∧ path ≠ "" := by
  unfold filePath?
  rw [Option.bind_eq_bind, Option.bind_eq_some_iff]
  refine exists_congr fun text => and_congr_right fun _ => ?_
  dsimp only
  constructor
  · intro h
    split at h
    · cases h
    · next hne =>
      cases h
      rw [String.toList_ofList, Ne, String.ofList_eq_empty_iff, ← List.isEmpty_iff]
      exact ⟨rfl, hne⟩
  · rintro ⟨htrim, hne⟩
    rw [htrim, if_neg (by simpa using hne), String.ofList_toList]

variable {values : String → Option ByteArray} {bytes : ByteArray} {path : String} {files : Files}

theorem filePath?_of_namesFile (hset : values fileVariable = some bytes)
    (h : NamesFile bytes path) : filePath? (ofBytes values) = some path := by
  obtain ⟨hne, htrimmed, text, rfl, hpadded⟩ := h
  exact filePath?_eq_some_iff.mpr
    ⟨text, ofBytes_eq_some_iff.mpr hset, hpadded.trim_eq htrimmed, hne⟩

theorem exists_namesFile (hblank : ¬ IsBlankText bytes) (htext : IsText bytes) :
    ∃ path, NamesFile bytes path := by
  obtain ⟨text, rfl⟩ := htext
  refine ⟨String.ofList (Text.trim text.toList), ?_, ?_, text, rfl, ?_⟩
  · rw [Ne, String.ofList_eq_empty_iff, Text.trim_eq_nil_iff]
    exact fun h => hblank ⟨text, rfl, h⟩
  · rw [String.toList_ofList]
    exact Text.isTrimmed_trim _
  · rw [String.toList_ofList]
    exact Text.isPadded_trim _

/-- A value that is no text is not looked at. -/
theorem filePath?_of_not_isText (hset : values fileVariable = some bytes) (h : ¬ IsText bytes) :
    filePath? (ofBytes values) = none := by
  rw [Option.eq_none_iff_forall_ne_some]
  intro path hpath
  obtain ⟨text, htext, -⟩ := filePath?_eq_some_iff.mp hpath
  rw [ofBytes_eq_some_iff, hset] at htext
  exact h ⟨text, Option.some.inj htext⟩

theorem ofEnvironment_eq (env : Environment) (files : Files) : ofEnvironment env files =
    (((filePath? env).map (ofFile files)).getD (.ok default)).map (override env) := by
  unfold ofEnvironment
  cases filePath? env with
  | none => rfl
  | some path =>
    show (ofFile files path).bind _ = (ofFile files path).map _
    cases ofFile files path <;> rfl

theorem ofEnvironment_of_namesFile (hset : values fileVariable = some bytes)
    (h : NamesFile bytes path) : ofEnvironment (ofBytes values) files =
      (ofFile files path).map (override (ofBytes values)) := by
  rw [ofEnvironment_eq, filePath?_of_namesFile hset h]
  rfl

/-! ## Overrides -/

/-- The fields that variables of their own override. -/
inductive Override
  | enabled
  | alwaysPrint
  | printExclusions
  deriving DecidableEq

namespace Override

/-- The name of the variable. -/
def name : Override → String
  | enabled => "NETWORK_PROXY_ENABLED"
  | alwaysPrint => "NETWORK_PROXY_ALWAYS_PRINT"
  | printExclusions => "NETWORK_PROXY_PRINT_EXCLUSIONS"

/-- The settings with the field as it is by default. -/
def erase (s : Settings) : Override → Settings
  | enabled => { s with enabled := default.enabled }
  | alwaysPrint => { s with alwaysPrint := default.alwaysPrint }
  | printExclusions => { s with printExclusions := default.printExclusions }

end Override

/-- A switch is told by the words `true` and `false`, with blanks around them. -/
def TellsSwitch (value : Option ByteArray) (b : Bool) : Prop :=
  ∃ bytes, value = some bytes ∧ Spells bytes (Inspect.bool b)

/-- Every text tells a list. -/
def TellsList (value : Option ByteArray) (entries : List String) : Prop :=
  ∃ text : String, value = some text.toUTF8 ∧ splitList text = entries

/-- A field gets what a variable tells, and is left as it is where the variable tells nothing. -/
def Replaces {α : Type} (Tells : α → Prop) (old new : α) : Prop :=
  (∀ a, Tells a → new = a) ∧ ((∀ a, ¬ Tells a) → new = old)

/-- The second settings are the first with the overrides put in. -/
structure Overridden (values : String → Option ByteArray) (s s' : Settings) : Prop where
  enabled : Replaces (TellsSwitch (values Override.enabled.name)) s.enabled s'.enabled
  alwaysPrint : Replaces (TellsSwitch (values Override.alwaysPrint.name)) s.alwaysPrint s'.alwaysPrint
  printExclusions : Replaces (TellsList (values Override.printExclusions.name)) s.printExclusions
    s'.printExclusions
  servers : s'.servers = s.servers

theorem replaces_getD {α : Type} {Tells : α → Prop} {told : Option α}
    (h : ∀ a, told = some a ↔ Tells a) (old : α) : Replaces Tells old (told.getD old) := by
  constructor
  · intro a ha
    rw [(h a).mpr ha]
    rfl
  · intro hnone
    cases told with
    | none => rfl
    | some a => exact absurd ((h a).mp rfl) (hnone a)

theorem isTrimmed_bool (b : Bool) : Text.IsTrimmed (Inspect.bool b).toList := by
  refine Text.isTrimmed_of_forall ?_
  cases b <;> exact Text.forall_mem (by decide)

theorem switch?_eq_some_iff {text : String} {b : Bool} :
    switch? text = some b ↔ Text.trim text.toList = (Inspect.bool b).toList := by
  unfold switch?
  rw [← String.toList_ofList (l := Text.trim text.toList), String.toList_inj, String.ofList_toList]
  generalize String.ofList (Text.trim text.toList) = word
  dsimp only
  constructor
  · intro h
    split at h
    · next htrue =>
      cases h
      exact htrue
    · split at h
      · next hfalse =>
        cases h
        exact hfalse
      · cases h
  · rintro rfl
    cases b <;> rfl

theorem tellsSwitch_iff (name : String) (b : Bool) :
    (ofBytes values name).bind switch? = some b ↔ TellsSwitch (values name) b := by
  rw [Option.bind_eq_some_iff]
  constructor
  · rintro ⟨text, htext, hb⟩
    rw [switch?_eq_some_iff, Text.trim_eq_iff] at hb
    exact ⟨_, ofBytes_eq_some_iff.mp htext, text, rfl, hb.2⟩
  · rintro ⟨bytes, hbytes, text, rfl, hpadded⟩
    exact ⟨text, ofBytes_eq_some_iff.mpr hbytes,
      switch?_eq_some_iff.mpr (hpadded.trim_eq (isTrimmed_bool b))⟩

theorem tellsList_iff (name : String) (entries : List String) :
    (ofBytes values name).map splitList = some entries ↔ TellsList (values name) entries := by
  rw [Option.map_eq_some_iff]
  exact exists_congr fun text => and_congr_left fun _ => ofBytes_eq_some_iff

theorem overridden_override (values : String → Option ByteArray) (s : Settings) :
    Overridden values s (override (ofBytes values) s) where
  enabled := replaces_getD (tellsSwitch_iff _) s.enabled
  alwaysPrint := replaces_getD (tellsSwitch_iff _) s.alwaysPrint
  printExclusions := replaces_getD (tellsList_iff _) s.printExclusions
  servers := rfl

/-! ## One override apart from the others -/

namespace Override

theorem fileVariable_ne (o : Override) : fileVariable ≠ o.name := by
  cases o <;> decide

theorem name_ne {o o' : Override} (h : o' ≠ o) : o'.name ≠ o.name := by
  revert h
  cases o <;> cases o' <;> decide

/-- Each field with the variable of its own. -/
theorem override_eq (env : Environment) (s : Settings) : override env s =
    { s with
      enabled := ((env enabled.name).bind switch?).getD s.enabled
      alwaysPrint := ((env alwaysPrint.name).bind switch?).getD s.alwaysPrint
      printExclusions := ((env printExclusions.name).map splitList).getD s.printExclusions } :=
  rfl

/-- Where the variables of the other overrides are the same, so are the other fields. -/
theorem erase_override_congr {env env' : Environment} {o : Override}
    (h : ∀ o', o' ≠ o → env o'.name = env' o'.name) (s : Settings) :
    o.erase (override env s) = o.erase (override env' s) := by
  rw [override_eq, override_eq]
  -- the field of the override itself is erased, and its variable with it
  cases o with
  | enabled =>
    rw [h .alwaysPrint (by decide), h .printExclusions (by decide)]
    rfl
  | alwaysPrint =>
    rw [h .enabled (by decide), h .printExclusions (by decide)]
    rfl
  | printExclusions =>
    rw [h .enabled (by decide), h .alwaysPrint (by decide)]
    rfl

variable (o : Override) (value : Option ByteArray)

theorem ofBytes_update_of_ne {name : String} (h : name ≠ o.name) :
    ofBytes (Function.update values o.name value) name = ofBytes values name := by
  unfold ofBytes
  rw [Function.update_of_ne h]

theorem filePath?_update :
    filePath? (ofBytes (Function.update values o.name value)) = filePath? (ofBytes values) := by
  unfold filePath?
  rw [ofBytes_update_of_ne o value o.fileVariable_ne]

/-- The variable of an override changes no other field, nor whether there are settings, nor the
error. -/
theorem erase_ofEnvironment_update (files : Files) :
    (ofEnvironment (ofBytes (Function.update values o.name value)) files).map o.erase =
      (ofEnvironment (ofBytes values) files).map o.erase := by
  rw [ofEnvironment_eq, ofEnvironment_eq, filePath?_update]
  generalize ((filePath? (ofBytes values)).map (ofFile files)).getD (.ok default) = source
  cases source with
  | error e => rfl
  | ok s =>
    refine congrArg Except.ok (erase_override_congr (fun o' hne => ?_) s)
    exact ofBytes_update_of_ne o value (name_ne hne)

end Override

/-! ## What becomes of a file that is named -/

/-- **A file that is named.**  Where the value of its variable is a text, the file is read, and a file
that cannot be read, or that holds no settings, is an error whatever the overrides are; else the
settings are its own with each override in its own field.  Where the value is no text, no file is
looked at, and the settings are the default with the overrides.  In either case the variable of an
override changes no other field. -/
theorem ofEnvironment_named (files : Files) (hset : values fileVariable = some bytes)
    (hblank : ¬ IsBlankText bytes) :
    (IsText bytes → ∃ path, NamesFile bytes path ∧
      (∀ fault, files path = .error fault →
        ofEnvironment (ofBytes values) files = .error (.file fault)) ∧
      (∀ text e, files path = .ok text → ofText text = .error e →
        ofEnvironment (ofBytes values) files = .error (.settings e)) ∧
      ∀ text s, files path = .ok text → ofText text = .ok s →
        ∃ s', ofEnvironment (ofBytes values) files = .ok s' ∧ Overridden values s s') ∧
    (¬ IsText bytes → ∃ s', ofEnvironment (ofBytes values) files = .ok s' ∧
      Overridden values default s') ∧
    ∀ (o : Override) (value : Option ByteArray),
      (ofEnvironment (ofBytes (Function.update values o.name value)) files).map o.erase =
        (ofEnvironment (ofBytes values) files).map o.erase := by
  refine ⟨fun htext => ?_, fun htext => ?_, fun o value => o.erase_ofEnvironment_update value files⟩
  · obtain ⟨path, hpath⟩ := exists_namesFile hblank htext
    refine ⟨path, hpath, ?_, ?_, ?_⟩
    · intro fault hfault
      rw [ofEnvironment_of_namesFile hset hpath, ofFile, hfault]
      rfl
    · intro text e hfile he
      rw [ofEnvironment_of_namesFile hset hpath, ofFile, hfile]
      simp only [he]
      rfl
    · intro text s hfile hs
      refine ⟨_, ?_, overridden_override values s⟩
      rw [ofEnvironment_of_namesFile hset hpath, ofFile, hfile]
      simp only [hs]
      rfl
  · refine ⟨_, ?_, overridden_override values default⟩
    rw [ofEnvironment_eq, filePath?_of_not_isText hset htext]
    rfl

/-- A name that is no text: the file is not missed, and an override is heeded. -/
theorem ofEnvironment_named_notText :
    let name : ByteArray := ⟨#[0x2F, 0xFF]⟩
    let values : String → Option ByteArray := fun key =>
      [(fileVariable, name), ("NETWORK_PROXY_ENABLED", " false".toUTF8)].lookup key
    values fileVariable = some name ∧ ¬ IsBlankText name ∧
      ofEnvironment (ofBytes values) (fun _ => .error .missing) =
        .ok { default with enabled := false } := by
  intro name values
  have hunread : String.fromUTF8? ⟨#[0x2F, 0xFF]⟩ = none := by decide +kernel
  have htext : ¬ IsText name := by
    rintro ⟨text, htext⟩
    have hread := Url.Percent.fromUTF8?_eq_some_iff.mpr htext.symm
    rw [hunread] at hread
    cases hread
  have hblank : ¬ IsBlankText name := fun ⟨text, h, _⟩ => htext ⟨text, h⟩
  refine ⟨rfl, hblank, ?_⟩
  obtain ⟨-, hdefault, -⟩ := ofEnvironment_named (fun _ => .error .missing)
    (show values fileVariable = some name from rfl) hblank
  obtain ⟨s', hs', hover⟩ := hdefault htext
  have henabled : s'.enabled = false := hover.enabled.1 false
    ⟨_, rfl, " false", rfl, [' '], [], Text.forall_mem (by decide), by simp, rfl⟩
  have hprint : s'.alwaysPrint = default.alwaysPrint := hover.alwaysPrint.2 fun b => by
    rintro ⟨bytes, hbytes, -⟩
    cases hbytes
  have hexclusions : s'.printExclusions = default.printExclusions :=
    hover.printExclusions.2 fun entries => by
      rintro ⟨text, htext, -⟩
      cases htext
  have hservers := hover.servers
  rw [hs']
  congr 1
  cases s'
  simp_all

end Settings

end ProxyRouting
