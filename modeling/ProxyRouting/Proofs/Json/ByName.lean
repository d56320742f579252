import Mathlib.Data.List.Pairwise
import Mathlib.Data.List.Perm.Basic
import ProxyRouting.Proofs.Json.Record

/-!
# Objects are read by name

Each field takes its own part of the state, so the order of the members of an object says nothing.
Nor does it matter under which of its names a field is given, or what else the object has.  A field
that is given twice cannot be read.

    Edit fields ms ms' → ms.foldl (takeMember fields) state? = ms'.foldl (takeMember fields) state?
    IsTwice fields ms → ms.foldl (takeMember fields) (some start) = none
-/

namespace ProxyRouting.Json

section
variable {σ : Type}

/-! ## Fields of their own -/

/-- Which of two fields takes its value first does not matter. -/
def RecordField.Commutes (f g : RecordField σ) : Prop :=
  ∀ state t u, (f.take state t).bind (g.take · u) = (g.take state u).bind (f.take · t)

/-- The names under which a field is found. -/
def RecordField.names (f : RecordField σ) : List String :=
  f.name :: f.otherNames

/-- Fields with their own names and their own parts of the state, which take a value once. -/
structure AreSeparate (fields : List (RecordField σ)) : Prop where
  reads : ∀ f ∈ fields, ∀ state, ReadsTrees (f.read state)
  names_nodup : (fields.flatMap RecordField.names).Nodup
  once : ∀ f ∈ fields, ∀ state next t, f.take state t = some next → f.isRead next = true
  commutes : fields.Pairwise RecordField.Commutes

theorem RecordField.hasName_iff {f : RecordField σ} {name : String} :
    f.hasName name = true ↔ name ∈ f.names := by
  rw [hasName, names, Bool.or_eq_true, beq_iff_eq, List.contains_iff_mem, List.mem_cons]
  exact or_congr_left eq_comm

instance : Std.Symm (RecordField.Commutes (σ := σ)) where
  symm _ _ h := fun state t u => (h state u t).symm

theorem find?_of_nodup {fields : List (RecordField σ)}
    (h : (fields.flatMap RecordField.names).Nodup) {f : RecordField σ} (hf : f ∈ fields)
    {name : String} (hname : f.hasName name = true) :
    fields.find? (·.hasName name) = some f := by
  induction fields with
  | nil => cases hf
  | cons g fields ih =>
    rw [List.flatMap_cons, List.nodup_append] at h
    obtain ⟨-, hfields, hdisjoint⟩ := h
    rcases List.mem_cons.mp hf with rfl | hf
    · exact List.find?_cons_of_pos hname
    · have hg : ¬ g.hasName name = true := fun hg =>
        hdisjoint name (RecordField.hasName_iff.mp hg) name
          (List.mem_flatMap.mpr ⟨f, hf, RecordField.hasName_iff.mp hname⟩) rfl
      have hskip : (g :: fields).find? (·.hasName name) = fields.find? (·.hasName name) :=
        List.find?_cons_of_neg hg
      rw [hskip, ih hfields hf]

section
variable {α β : Type} {name name' : String} {otherNames otherNames' : List String}
  {read : Reader α} {value? : σ → Option α} {set : σ → α → σ}
  {read' : Reader β} {value'? : σ → Option β} {set' : σ → β → σ}

theorem reads_of (h : ReadsTrees read) (state : σ) :
    ReadsTrees ((RecordField.of name otherNames read value? set).read state) :=
  h.map (set state)

/-- What a field that has no value yet takes. -/
def taken? (read : Reader α) (value? : Option α) (t : Tree) : Option α :=
  if value?.isSome then none else t.read? read

theorem take_of (state : σ) (t : Tree) :
    (RecordField.of name otherNames read value? set).take state t =
      (taken? read (value? state) t).map (set state) := by
  by_cases hread : (value? state).isSome = true
  · rw [taken?, if_pos hread]
    exact if_pos hread
  · rw [taken?, if_neg hread, ← read?_map (set state)]
    exact if_neg hread

theorem once_of (hown : ∀ state a, value? (set state a) = some a)
    (state next : σ) (t : Tree)
    (htake : (RecordField.of name otherNames read value? set).take state t = some next) :
    (RecordField.of name otherNames read value? set).isRead next = true := by
  rw [take_of] at htake
  obtain ⟨a, -, rfl⟩ := Option.map_eq_some_iff.mp htake
  show (value? (set state a)).isSome = true
  rw [hown]
  rfl

/-- Fields that keep out of each other's part of the state. -/
theorem commutes_of (hkeep : ∀ state a, value'? (set state a) = value'? state)
    (hkeep' : ∀ state b, value? (set' state b) = value? state)
    (hset : ∀ state a b, set' (set state a) b = set (set' state b) a) :
    (RecordField.of name otherNames read value? set).Commutes
      (.of name' otherNames' read' value'? set') := by
  intro state t u
  rw [take_of, take_of]
  cases ha : taken? read (value? state) t with
  | none =>
    cases taken? read' (value'? state) u with
    | none => rfl
    | some b => rw [Option.map_some, Option.bind_some, take_of, hkeep', ha]; rfl
  | some a =>
    rw [Option.map_some, Option.bind_some, take_of, hkeep]
    cases taken? read' (value'? state) u with
    | none => rfl
    | some b =>
      rw [Option.map_some, Option.map_some, Option.bind_some, take_of, hkeep', ha, Option.map_some,
        hset]

end

/-! ## Edits -/

/-- Whether a name can be read and is one of a field. -/
def Literal.isOf (l : Literal) (f : RecordField σ) : Bool :=
  l.value?.any f.hasName

/-- One change of an object: its members in another order, a member of an unknown name, or another
name of the same field. -/
inductive Edit (fields : List (RecordField σ)) :
    List (Literal × Tree) → List (Literal × Tree) → Prop
  | reorder {ms ms' : List (Literal × Tree)} (perm : ms.Perm ms') : Edit fields ms ms'
  | add {before after : List (Literal × Tree)} {l : Literal} {name : String} (value : Tree)
      (readable : l.value? = some name) (unknown : ∀ f ∈ fields, f.hasName name = false) :
      Edit fields (before ++ after) (before ++ (l, value) :: after)
  | respell {before after : List (Literal × Tree)} {l l' : Literal} {f : RecordField σ}
      (value : Tree) (known : f ∈ fields) (named : l.isOf f = true) (named' : l'.isOf f = true) :
      Edit fields (before ++ (l, value) :: after) (before ++ (l', value) :: after)

/-- A field is given twice, by whichever of its names. -/
def IsTwice (fields : List (RecordField σ)) (ms : List (Literal × Tree)) : Prop :=
  ∃ f ∈ fields, 2 ≤ ms.countP fun m => m.1.isOf f

variable {fields : List (RecordField σ)} (h : AreSeparate fields)

include h in
/-- A field takes no second value. -/
theorem take_take {f : RecordField σ} (hf : f ∈ fields) (state : σ) (t u : Tree) :
    (f.take state t).bind (f.take · u) = none := by
  cases htake : f.take state t with
  | none => rfl
  | some next =>
    rw [Option.bind_some, RecordField.take, if_pos (h.once f hf state next t htake)]

include h in
theorem takeNamed_comm (name name' : String) (state : σ) (t u : Tree) :
    (takeNamed fields name state t).bind (takeNamed fields name' · u) =
      (takeNamed fields name' state u).bind (takeNamed fields name · t) := by
  unfold takeNamed
  cases hfind : fields.find? (·.hasName name) with
  | none => simp
  | some f =>
    cases hfind' : fields.find? (·.hasName name') with
    | none => simp
    | some g =>
      have hself : ∀ f ∈ fields, f.Commutes f := fun f hf state t u =>
        (take_take h hf state t u).trans (take_take h hf state u t).symm
      exact h.commutes.forall_of_forall hself (List.mem_of_find?_eq_some hfind)
        (List.mem_of_find?_eq_some hfind') state t u

include h in
theorem takeMember_comm (state? : Option σ) (m m' : Literal × Tree) :
    takeMember fields (takeMember fields state? m) m' =
      takeMember fields (takeMember fields state? m') m := by
  unfold takeMember
  cases state? with
  | none => rfl
  | some state =>
    cases m.1.value? with
    | none => simp
    | some name =>
      cases m'.1.value? with
      | none => simp
      | some name' => exact takeNamed_comm h name name' state m.2 m'.2

include h in
theorem takeMember_isOf {l : Literal} {f : RecordField σ} (hf : f ∈ fields) (hl : l.isOf f = true)
    (state : σ) (t : Tree) : takeMember fields (some state) (l, t) = f.take state t := by
  obtain ⟨name, hname, hhas⟩ := (Option.any_eq_true _ _).mp hl
  simp only [takeMember, hname, Option.bind_some, takeNamed, find?_of_nodup h.names_nodup hf hhas]

/-- An unknown member changes nothing. -/
theorem takeMember_unknown {l : Literal} {name : String} (readable : l.value? = some name)
    (unknown : ∀ f ∈ fields, f.hasName name = false) (state? : Option σ) (t : Tree) :
    takeMember fields state? (l, t) = state? := by
  have hfind : fields.find? (·.hasName name) = none :=
    List.find?_eq_none.mpr fun f hf => by rw [unknown f hf]; exact Bool.false_ne_true
  unfold takeMember takeNamed
  simp only [readable, hfind, Option.bind_some]
  exact Option.bind_fun_some _

include h in
/-- **An object is read by name.** -/
theorem Edit.foldl_takeMember {ms ms' : List (Literal × Tree)} (hedit : Edit fields ms ms')
    (state? : Option σ) :
    ms.foldl (takeMember fields) state? = ms'.foldl (takeMember fields) state? := by
  cases hedit with
  | reorder hperm =>
    have : RightCommutative (takeMember fields) := ⟨takeMember_comm h⟩
    exact hperm.foldl_eq state?
  | add value readable unknown =>
    rw [List.foldl_append, List.foldl_append, List.foldl_cons,
      takeMember_unknown readable unknown]
  | respell value known named named' =>
    rw [List.foldl_append, List.foldl_append, List.foldl_cons, List.foldl_cons]
    congr 1
    cases List.foldl (takeMember fields) state? _ with
    | none => rfl
    | some state => rw [takeMember_isOf h known named, takeMember_isOf h known named']

include h in
/-- **A field that is given twice cannot be read.** -/
theorem foldl_takeMember_of_isTwice {ms : List (Literal × Tree)} (htwice : IsTwice fields ms)
    (state? : Option σ) : ms.foldl (takeMember fields) state? = none := by
  obtain ⟨f, hf, hcount⟩ := htwice
  rw [List.countP_eq_length_filter] at hcount
  have hperm := List.filter_append_perm (fun m : Literal × Tree => m.1.isOf f) ms
  have hof : ∀ m ∈ ms.filter fun m => m.1.isOf f, m.1.isOf f = true := fun m hm =>
    (List.mem_filter.mp hm).2
  match hfilter : ms.filter fun m => m.1.isOf f with
  | [] => simp [hfilter] at hcount
  | [m] => simp [hfilter] at hcount
  | m :: m' :: more =>
    rw [hfilter] at hperm hof
    -- the two members are brought to the front
    rw [← (Edit.reorder hperm).foldl_takeMember h state?, List.cons_append, List.cons_append,
      List.foldl_cons, List.foldl_cons]
    have hm := hof m (by simp)
    have hm' := hof m' (by simp)
    have hnone : takeMember fields (takeMember fields state? m) m' = none := by
      cases state? with
      | none => rfl
      | some state =>
        rw [takeMember_isOf h hf hm]
        have htake := take_take h hf state m.2 m'.2
        cases hnext : f.take state m.2 with
        | none => rfl
        | some next =>
          rw [hnext] at htake
          rw [takeMember_isOf h hf hm']
          exact htake
    rw [hnone, foldl_takeMember_none]

end

end ProxyRouting.Json
