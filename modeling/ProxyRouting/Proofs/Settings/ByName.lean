import Mathlib.Logic.Relation
import ProxyRouting.Proofs.Json.ByName
import ProxyRouting.Settings.Reader

/-!
# Settings are read by name

The settings object and the server objects in it may be edited without a change of the settings:
members may change places, members of unknown names may be added, a field may be given under its
other name.  An object that gives a field twice is not read, whichever names it has.

    SettingsEdit ms ms' → (Tree.object ms).read? readSettings = (Tree.object ms').read? readSettings
    GivesTwice t → t.read? readSettings = none
-/

namespace ProxyRouting

open Json

/-! ## Readers and fields -/

/-- The kind that a string names. -/
def kindOf (text : String) : Except Json.Error ProxyKind :=
  match ProxyKind.ofText text with
  | .ok kind => .ok kind
  | .error reason => .error (.refused reason)

theorem readsTrees_readKind : ReadsTrees readKind := by
  have hkind : readKind = fun s => readString s >>= fun r => (kindOf r.1).map (·, r.2) := by
    funext s
    unfold readKind
    congr 1
    funext ⟨text, rest⟩
    simp only [kindOf]
    cases ProxyKind.ofText text <;> rfl
  rw [hkind]
  exact readsTrees_readString.bind kindOf

namespace ServerDraft

theorem areSeparate : AreSeparate fields where
  reads := by
    have htext := readsTrees_readString.option
    have hlist := readsTrees_readString.list
    simp only [fields, List.mem_cons, List.not_mem_nil, or_false, forall_eq_or_imp, forall_eq]
    exact ⟨reads_of readsTrees_readKind, reads_of htext, reads_of readsTrees_readPort.option,
      reads_of htext, reads_of htext, reads_of hlist, reads_of hlist, reads_of hlist⟩
  names_nodup := by decide
  once := by
    simp only [fields, List.mem_cons, List.not_mem_nil, or_false, forall_eq_or_imp, forall_eq]
    and_intros <;> exact once_of fun _ _ => rfl
  commutes := by
    simp only [fields, List.pairwise_cons, List.mem_cons, List.not_mem_nil, or_false,
      forall_eq_or_imp, forall_eq, false_implies, implies_true, List.Pairwise.nil, and_true]
    and_intros <;> exact commutes_of (fun _ _ => rfl) (fun _ _ => rfl) fun _ _ _ => rfl

end ServerDraft

theorem readsTrees_readServer : ReadsTrees readServer :=
  (ReadsTrees.record ServerDraft.areSeparate.reads _ _).map ServerDraft.record

/-- What is read of a server object. -/
theorem read?_readServer (ms : List (Literal × Tree)) : (Tree.object ms).read? readServer =
    (ms.foldl (takeMember ServerDraft.fields) (some .empty)).map ServerDraft.record := by
  rw [← read?_record ServerDraft.areSeparate.reads]
  exact read?_map ServerDraft.record _

namespace SettingsDraft

theorem areSeparate : AreSeparate fields where
  reads := by
    simp only [fields, List.mem_cons, List.not_mem_nil, or_false, forall_eq_or_imp, forall_eq]
    exact ⟨reads_of readsTrees_readBool, reads_of readsTrees_readBool,
      reads_of readsTrees_readString.list, reads_of readsTrees_readServer.list⟩
  names_nodup := by decide
  once := by
    simp only [fields, List.mem_cons, List.not_mem_nil, or_false, forall_eq_or_imp, forall_eq]
    and_intros <;> exact once_of fun _ _ => rfl
  commutes := by
    simp only [fields, List.pairwise_cons, List.mem_cons, List.not_mem_nil, or_false,
      forall_eq_or_imp, forall_eq, false_implies, implies_true, List.Pairwise.nil, and_true]
    and_intros <;> exact commutes_of (fun _ _ => rfl) (fun _ _ => rfl) fun _ _ _ => rfl

end SettingsDraft

theorem readsTrees_readSettings : ReadsTrees readSettings :=
  (ReadsTrees.record SettingsDraft.areSeparate.reads _ _).map SettingsDraft.settings

theorem read?_readSettings (ms : List (Literal × Tree)) : (Tree.object ms).read? readSettings =
    (ms.foldl (takeMember SettingsDraft.fields) (some .empty)).map SettingsDraft.settings := by
  rw [← read?_record SettingsDraft.areSeparate.reads]
  exact read?_map SettingsDraft.settings _

/-! ## Edits -/

/-- One change of a settings object, of its own members or of those of one of its servers. -/
inductive SettingsEdit : List (Literal × Tree) → List (Literal × Tree) → Prop
  | own {ms ms' : List (Literal × Tree)} (edit : Edit SettingsDraft.fields ms ms') :
      SettingsEdit ms ms'
  | server {before after : List (Literal × Tree)} {l : Literal} {first last : List Tree}
      {ss ss' : List (Literal × Tree)} (named : l.value? = some "servers")
      (edit : Edit ServerDraft.fields ss ss') :
      SettingsEdit (before ++ (l, .list (first ++ .object ss :: last)) :: after)
        (before ++ (l, .list (first ++ .object ss' :: last)) :: after)

/-- The server objects of settings, under their name or in their place. -/
inductive IsServerOf : Tree → List (Literal × Tree) → Prop
  | named {ms ss : List (Literal × Tree)} {l : Literal} {items : List Tree}
      (member : (l, .list items) ∈ ms) (named : l.value? = some "servers")
      (item : .object ss ∈ items) : IsServerOf (.object ms) ss
  | placed {a b c : Tree} {items last : List Tree} {ss : List (Literal × Tree)}
      (item : .object ss ∈ items) : IsServerOf (.list (a :: b :: c :: .list items :: last)) ss

/-- Some object of the settings gives a field twice. -/
inductive GivesTwice : Tree → Prop
  | own {ms : List (Literal × Tree)} (twice : IsTwice SettingsDraft.fields ms) :
      GivesTwice (.object ms)
  | server {t : Tree} {ss : List (Literal × Tree)} (server : IsServerOf t ss)
      (twice : IsTwice ServerDraft.fields ss) : GivesTwice t

theorem takeMember_servers {l : Literal} (named : l.value? = some "servers") (d : SettingsDraft)
    (t : Tree) : takeMember SettingsDraft.fields (some d) (l, t) =
      (taken? (readList readServer) d.servers t).map fun a => { d with servers := some a } := by
  simp only [takeMember, named, Option.bind_some, takeNamed]
  exact take_of d t

/-- A server object is read by name. -/
theorem read?_readServer_edit {ss ss' : List (Literal × Tree)}
    (h : Edit ServerDraft.fields ss ss') : (Tree.object ss).read? readServer = (Tree.object ss').read? readServer := by
  rw [read?_readServer, read?_readServer, h.foldl_takeMember ServerDraft.areSeparate]

theorem SettingsEdit.read?_eq {ms ms' : List (Literal × Tree)} (h : SettingsEdit ms ms') :
    (Tree.object ms).read? readSettings = (Tree.object ms').read? readSettings := by
  rw [read?_readSettings, read?_readSettings]
  congr 1
  cases h with
  | own edit => exact edit.foldl_takeMember SettingsDraft.areSeparate _
  | server named edit =>
    rw [List.foldl_append, List.foldl_append, List.foldl_cons, List.foldl_cons]
    congr 1
    cases List.foldl (takeMember SettingsDraft.fields) (some .empty) _ with
    | none => rfl
    | some d =>
      rw [takeMember_servers named, takeMember_servers named, taken?, taken?,
        readsTrees_readServer.read?_list, readsTrees_readServer.read?_list,
        readEach?_replace (read?_readServer_edit edit)]

theorem read?_readSettings_edits {ms ms' : List (Literal × Tree)}
    (h : Relation.ReflTransGen SettingsEdit ms ms') :
    (Tree.object ms).read? readSettings = (Tree.object ms').read? readSettings := by
  induction h with
  | refl => rfl
  | tail _ hedit ih => exact ih.trans hedit.read?_eq

/-! ## Fields that are given twice -/

theorem read?_servers_of_isTwice {ss : List (Literal × Tree)} {items : List Tree}
    (hitem : .object ss ∈ items) (htwice : IsTwice ServerDraft.fields ss) :
    (Tree.list items).read? (readList readServer) = none := by
  have hserver : (Tree.object ss).read? readServer = none := by
    rw [read?_readServer, foldl_takeMember_of_isTwice ServerDraft.areSeparate htwice]
    rfl
  rw [readsTrees_readServer.read?_list, readEach?_eq_none hitem hserver]

/-- Where the servers of an object cannot be read the object cannot be read. -/
theorem foldl_takeMember_servers {ms : List (Literal × Tree)} {l : Literal} {t : Tree}
    (hmember : (l, t) ∈ ms) (named : l.value? = some "servers")
    (ht : t.read? (readList readServer) = none) (state? : Option SettingsDraft) :
    ms.foldl (takeMember SettingsDraft.fields) state? = none := by
  obtain ⟨before, after, rfl⟩ := List.append_of_mem hmember
  rw [List.foldl_append, List.foldl_cons]
  have hnone : takeMember SettingsDraft.fields
      (before.foldl (takeMember SettingsDraft.fields) state?) (l, t) = none := by
    cases before.foldl (takeMember SettingsDraft.fields) state? with
    | none => rfl
    | some d =>
      rw [takeMember_servers named, taken?, ht, ite_self]
      rfl
  rw [hnone, foldl_takeMember_none]

/-- Nor can a list, where the servers are the fourth. -/
theorem read?_placed {a b c t : Tree} {last : List Tree}
    (ht : t.read? (readList readServer) = none) :
    (Tree.list (a :: b :: c :: t :: last)).read? readSettings = none := by
  have hread : (Tree.list (a :: b :: c :: t :: last)).read? readSettings =
      (takeInOrder .empty SettingsDraft.fields (a :: b :: c :: t :: last)).map
        SettingsDraft.settings := by
    rw [← read?_record_list SettingsDraft.areSeparate.reads]
    exact read?_map SettingsDraft.settings _
  have hservers (d : SettingsDraft) : t.read? ((RecordField.of "servers" [] (readList readServer)
      SettingsDraft.servers fun d a => { d with servers := some a }).read d) = none :=
    (read?_map (fun a => { d with servers := some a }) t).trans (by rw [ht]; rfl)
  rw [hread]
  simp only [SettingsDraft.fields, takeInOrder, hservers, Option.bind_none, Option.bind_fun_none,
    Option.map_none]

theorem GivesTwice.read?_eq_none {t : Tree} (h : GivesTwice t) : t.read? readSettings = none := by
  cases h with
  | own htwice =>
    rw [read?_readSettings, foldl_takeMember_of_isTwice SettingsDraft.areSeparate htwice]
    rfl
  | server hserver htwice =>
    cases hserver with
    | named hmember named hitem =>
      rw [read?_readSettings, foldl_takeMember_servers hmember named
        (read?_servers_of_isTwice hitem htwice)]
      rfl
    | placed hitem => exact read?_placed (read?_servers_of_isTwice hitem htwice)

/-! ## Texts -/

theorem toOption_ofText {t : Tree} {text : String} (h : t.IsWritten text) :
    (Settings.ofText text).toOption = t.read? readSettings :=
  readsTrees_readSettings.toOption_readAll h

/-- A text that is read and opens with a brace is an object. -/
theorem exists_object_of_ofText {text : String} {s : Settings} (h : Settings.ofText text = .ok s)
    (hopens : (dropBlanks text.toList).head? = some '\x7b') :
    ∃ ms, (Tree.object ms).IsWritten text := by
  obtain ⟨t, ht⟩ := readsTrees_readSettings.exists_isWritten h
  obtain ⟨w, blanks, htext, hw, -⟩ := id ht
  obtain ⟨v, -, -, hdrop⟩ := Tree.exists_of_spaced hw
  rw [htext, hdrop] at hopens
  obtain ⟨ms, rfl⟩ := Tree.eq_object_of_first (Option.some.inj hopens)
  exact ⟨ms, ht⟩

/-- **Settings are read by name.**  A text that is read and opens with a brace is an object;
whatever edits are made in it and however the result is spaced, it is read as the same settings.
An object that gives a field twice is not read. -/
theorem ofText_byName :
    (∀ (text : String) (s : Settings), Settings.ofText text = .ok s →
      (dropBlanks text.toList).head? = some '\x7b' →
        (∃ ms, (Tree.object ms).IsWritten text) ∧
          ∀ (ms ms' : List (Literal × Tree)) (text' : String), (Tree.object ms).IsWritten text →
            Relation.ReflTransGen SettingsEdit ms ms' → (Tree.object ms').IsWritten text' →
              Settings.ofText text' = .ok s) ∧
      ∀ (t : Tree) (text : String), t.IsWritten text → GivesTwice t →
        ∃ e, Settings.ofText text = .error e := by
  refine ⟨fun text s hread hopens => ⟨exists_object_of_ofText hread hopens, ?_⟩, ?_⟩
  · intro ms ms' text' hms hedits hms'
    rw [← toOption_eq_some_iff, toOption_ofText hms', ← read?_readSettings_edits hedits,
      ← toOption_ofText hms, toOption_eq_some_iff, hread]
  · intro t text ht htwice
    rw [← toOption_eq_none_iff, toOption_ofText ht, htwice.read?_eq_none]

/-- The other spelling of a name, an order of its own and a member that no server has are read alike;
both spellings together are refused. -/
theorem ofText_byName_always_print :
    Settings.ofText " \x7b\"servers\": [\x7b\"x\": null\x7d], \"always-print\": true\x7d" =
        .ok { Settings.default with alwaysPrint := true, servers := [ServerDraft.empty.record] } ∧
      ∃ e, Settings.ofText "\x7b\"alwaysPrint\":true,\"always-print\":false\x7d" = .error e := by
  let servers : Literal := .plain "servers" (by decide +kernel)
  let alwaysPrint : Literal := .plain "alwaysPrint" (by decide +kernel)
  let dashed : Literal := .plain "always-print" (by decide +kernel)
  let x : Literal := .plain "x" (by decide +kernel)
  have hservers : servers.value? = some "servers" := by decide +kernel
  have hx : x.value? = some "x" := by decide +kernel
  obtain ⟨hedits, htwice⟩ := ofText_byName
  constructor
  · have hrespell : SettingsEdit
        ([] ++ (alwaysPrint, .bool true) :: [(servers, .list [.object []])])
        ([] ++ (dashed, .bool true) :: [(servers, .list [.object []])]) :=
      .own (.respell (f := SettingsDraft.fields[1]) _ (List.getElem_mem _) (by decide +kernel)
        (by decide +kernel))
    have hswap : SettingsEdit [(dashed, .bool true), (servers, .list [.object []])]
        [(servers, .list [.object []]), (dashed, .bool true)] :=
      .own (.reorder (.swap ..))
    have hadd : SettingsEdit
        ([] ++ (servers, .list ([] ++ .object ([] ++ []) :: [])) :: [(dashed, .bool true)])
        ([] ++ (servers, .list ([] ++ .object ([] ++ (x, .null) :: []) :: [])) ::
          [(dashed, .bool true)]) :=
      .server hservers (.add .null hx (by decide +kernel))
    exact (hedits "\x7b\"alwaysPrint\":true,\"servers\":[\x7b\x7d]\x7d" _ (by decide +kernel)
      (by decide +kernel)).2 _ _ _ (by decide +kernel)
      ((Relation.ReflTransGen.single hrespell).tail hswap |>.tail hadd) (by decide +kernel)
  · exact htwice (.object [(alwaysPrint, .bool true), (dashed, .bool false)]) _ (by decide +kernel)
      (.own ⟨SettingsDraft.fields[1], List.getElem_mem _, by decide +kernel⟩)

end ProxyRouting
