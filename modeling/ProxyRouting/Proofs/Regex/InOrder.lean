import ProxyRouting.Proofs.Regex.Match
import ProxyRouting.Proofs.Regex.Step
import ProxyRouting.Regex.Meaning

/-!
# Bounds in order

The reader refuses a repetition whose bounds are not in order, so that no expression that it reads
has one: every step keeps that of all that was read so far, and the meaning of a tree repeats
nothing that the tree does not.

    ofText s = .ok r → r.InOrder
-/

namespace ProxyRouting.Regex

/-! ## Trees -/

/-- The bounds of every repetition of a tree are in order. -/
def Ast.InOrder : Ast → Prop
  | .rep min max body => (∀ m, max = some m → min ≤ m) ∧ body.InOrder
  | .capture body => body.InOrder
  | .group _ body => body.InOrder
  | .seq a b => a.InOrder ∧ b.InOrder
  | .alt a b => a.InOrder ∧ b.InOrder
  | _ => True

theorem fold_inOrder (join : Ast → Ast → Ast)
    (hjoin : ∀ a b, a.InOrder → b.InOrder → (join a b).InOrder) (rest : List Ast) :
    ∀ acc : Ast, acc.InOrder → (∀ a ∈ rest, a.InOrder) →
      (rest.foldl (fun acc a => join a acc) acc).InOrder := by
  induction rest with
  | nil => exact fun acc hacc _ => hacc
  | cons a rest ih =>
    intro acc hacc hrest
    obtain ⟨ha, hrest⟩ := List.forall_mem_cons.mp hrest
    exact ih _ (hjoin a acc ha hacc) hrest

theorem ofItems_inOrder {items : List Ast} (h : ∀ item ∈ items, item.InOrder) :
    (Ast.ofItems items).InOrder := by
  cases items with
  | nil => trivial
  | cons last rest =>
    obtain ⟨hlast, hrest⟩ := List.forall_mem_cons.mp h
    exact fold_inOrder .seq (fun _ _ ha hb => ⟨ha, hb⟩) rest last hlast hrest

theorem ofBranches_inOrder {branches : List Ast} (h : ∀ branch ∈ branches, branch.InOrder) :
    (Ast.ofBranches branches).InOrder := by
  cases branches with
  | nil => trivial
  | cons last rest =>
    obtain ⟨hlast, hrest⟩ := List.forall_mem_cons.mp h
    exact fold_inOrder .alt (fun _ _ ha hb => ⟨ha, hb⟩) rest last hlast hrest

/-! ## The reader -/

/-- What was read of a level. -/
def Level.InOrder (level : Level) : Prop :=
  (∀ branch ∈ level.branches, branch.InOrder) ∧ ∀ item ∈ level.items, item.InOrder

namespace Level.InOrder

variable {level : Level}

theorem start : Level.start.InOrder :=
  ⟨List.forall_mem_nil _, List.forall_mem_nil _⟩

theorem push (h : level.InOrder) {item : Ast} (hitem : item.InOrder) :
    (level.push item).InOrder :=
  ⟨h.1, List.forall_mem_cons.mpr ⟨hitem, h.2⟩⟩

theorem branch (h : level.InOrder) : level.branch.InOrder :=
  ⟨List.forall_mem_cons.mpr ⟨ofItems_inOrder h.2, h.1⟩, List.forall_mem_nil _⟩

theorem toAst (h : level.InOrder) : level.toAst.InOrder :=
  ofBranches_inOrder (List.forall_mem_cons.mpr ⟨ofItems_inOrder h.2, h.1⟩)

end Level.InOrder

namespace Reader

/-- What was read, in the level that is read and around it. -/
def InOrder (r : Reader) : Prop :=
  r.level.InOrder ∧ ∀ e ∈ r.outer, e.level.InOrder

variable {r r' : Reader}

theorem start_inOrder : Reader.start.InOrder :=
  ⟨.start, List.forall_mem_nil _⟩

theorem push_inOrder (h : r.InOrder) {item : Ast} (hitem : item.InOrder) :
    (r.push item).InOrder :=
  ⟨h.1.push hitem, h.2⟩

theorem enter_inOrder (h : r.InOrder) (opening : Opening) : (r.enter opening).InOrder := by
  cases opening with
  | flags change => exact push_inOrder h trivial
  | group change => exact ⟨.start, List.forall_mem_cons.mpr ⟨h.1, h.2⟩⟩
  | capture name => exact ⟨.start, List.forall_mem_cons.mpr ⟨h.1, h.2⟩⟩

theorem close_inOrder (h : r.InOrder) (hclose : r.close = .ok r') : r'.InOrder := by
  obtain ⟨level, outer, blanks, names⟩ := r
  cases outer with
  | nil => cases hclose
  | cons e outer =>
    cases hclose
    obtain ⟨he, houter⟩ := List.forall_mem_cons.mp h.2
    refine ⟨he.push ?_, houter⟩
    cases e.opening with
    | flags change => trivial
    | group change => exact h.1.toAst
    | capture name => exact h.1.toAst

theorem repeatLast_inOrder (h : r.InOrder) {min : Nat} {max : Option Nat}
    (hbounds : ∀ m, max = some m → min ≤ m) (hlast : r.repeatLast min max = .ok r') :
    r'.InOrder := by
  obtain ⟨item, items, hitems, -, rfl⟩ := repeatLast_ok_iff.mp hlast
  have hmem := h.1.2
  rw [hitems, List.forall_mem_cons] at hmem
  exact ⟨⟨h.1.1, List.forall_mem_cons.mpr ⟨⟨hbounds, hmem.1⟩, hmem.2⟩⟩, h.2⟩

theorem repeatBetween_inOrder (h : r.InOrder) {bounds : Nat × Option Nat}
    (hlast : r.repeatBetween bounds = .ok r') : r'.InOrder := by
  unfold repeatBetween at hlast
  split at hlast
  · cases hlast
  · next hbounds =>
    refine repeatLast_inOrder h (fun m hm => ?_) hlast
    rw [hm] at hbounds
    simpa using hbounds

/-- A class is read as one, whatever is in it. -/
theorem runClass_bracket {blanks : Bool} {ast : Ast} {rest : List Char} (fuel : Nat) :
    ∀ {c : ClassReader} {s : List Char}, runClass fuel blanks c s = .ok (ast, rest) →
      ∃ negated inside, ast = .bracket negated inside := by
  have hstep {c : ClassReader} {s : List Char} (h : c.step blanks s = .ok (.inl ast, rest)) :
      ∃ negated inside, ast = .bracket negated inside := by
    unfold ClassReader.step at h
    split at h
    · cases h
    · split at h
      · cases h
      · obtain ⟨o, -, heq⟩ := map_ok_iff.mp h
        cases heq
    · split at h
      · cases h
        exact ⟨_, _, rfl⟩
      · cases h
    · cases h
    · cases h
    · cases h
    · obtain ⟨i, -, heq⟩ := map_ok_iff.mp h
      cases heq
  induction fuel with
  | zero =>
    intro c s h
    cases h
  | succ fuel ih =>
    intro c s h
    rw [runClass] at h
    obtain ⟨⟨x, more⟩, hx, hrun⟩ := bind_ok_iff.mp h
    cases x with
    | inl ast =>
      cases hrun
      exact hstep hx
    | inr c => exact ih hrun

/-- Every step keeps what was read in order. -/
theorem Step.inOrder {c : Char} {s rest : List Char} (hstep : Step r c s r' rest)
    (h : r.InOrder) : r'.InOrder := by
  cases hstep with
  | enter => exact enter_inOrder h _
  | close hclose => exact close_inOrder h hclose
  | branch => exact ⟨h.1.branch, h.2⟩
  | bracket hread =>
    obtain ⟨o, -, hrun⟩ := bind_ok_iff.mp hread
    obtain ⟨negated, inside, rfl⟩ := runClass_bracket _ hrun
    exact push_inOrder h trivial
  | repeated hc hlast =>
    refine repeatLast_inOrder h ?_ hlast
    simp only [shortBounds, List.mem_cons, List.not_mem_nil, or_false, Prod.mk.injEq] at hc
    rcases hc with ⟨-, rfl, rfl⟩ | ⟨-, rfl, rfl⟩ | ⟨-, rfl, rfl⟩
    all_goals simp
  | between _ _ hlast => exact repeatBetween_inOrder h hlast
  | @primitive _ _ _ p =>
    refine push_inOrder h ?_
    cases p with
    | literal lit => trivial
    | assertion a => trivial
    | dot => trivial
    | short kind negated => trivial
    | property name negated => trivial

theorem run_inOrder (fuel : Nat) :
    ∀ {r r' : Reader} {s : List Char}, r.InOrder → r.run fuel s = .ok r' → r'.InOrder := by
  induction fuel with
  | zero =>
    intro r r' s h hrun
    unfold run at hrun
    split at hrun
    · cases hrun
      exact h
    · cases hrun
      exact h
  | succ fuel ih =>
    intro r r' s h hrun
    cases hs : skip r.blanks s with
    | nil =>
      rw [run_of_blank hs] at hrun
      cases hrun
      exact h
    | cons c more =>
      rw [run_of_cons hs] at hrun
      obtain ⟨p, hstep, hrun⟩ := bind_ok_iff.mp hrun
      exact ih ((step_ok_iff.mp hstep).inOrder h) hrun

end Reader

theorem read_inOrder {s : List Char} {ast : Ast} (h : read s = .ok ast) : ast.InOrder := by
  obtain ⟨r, hrun, -, -, rfl⟩ := read_ok_iff.mp h
  exact (Reader.run_inOrder _ Reader.start_inOrder hrun).1.toAst

/-! ## Meanings -/

theorem repeated_inOrder {min : Nat} {max : Option Nat} {r : Regex}
    (hbounds : ∀ m, max = some m → min ≤ m) (h : r.InOrder) : (repeated min max r).InOrder := by
  unfold repeated
  split
  · next lo hi inner =>
    split
    · next hsimple =>
      refine ⟨fun m hm => ?_, h.2⟩
      split at hm
      · cases hm
      · cases hm
        simp only [Bool.and_eq_true, decide_eq_true_eq] at hsimple
        exact Nat.mul_le_mul hsimple.1.1.1 hsimple.1.1.2
    · exact ⟨hbounds, h⟩
  · exact ⟨hbounds, h⟩

theorem literalRegex_inOrder (flags : Flags) (c : Char) : (literalRegex flags c).InOrder := by
  unfold literalRegex
  split
  · trivial
  · split
    · split
      · trivial
      · trivial
    · split
      · trivial
      · trivial

theorem dotRegex_inOrder {flags : Flags} {r : Regex} (h : dotRegex flags = .ok r) : r.InOrder := by
  unfold dotRegex at h
  split at h
  · cases h
  · split at h
    · cases h
      trivial
    · split at h
      · cases h
        trivial
      · cases h
        trivial

/-- Nothing is repeated that is not repeated in the tree. -/
theorem meaning_inOrder {ast : Ast} :
    ∀ {flags flags' : Flags} {r : Regex}, ast.InOrder → ast.meaning flags = .ok (r, flags') →
      r.InOrder := by
  induction ast with
  | empty =>
    intro flags flags' r _ h
    cases h
    trivial
  | flags change =>
    intro flags flags' r _ h
    cases h
    trivial
  | literal lit =>
    intro flags flags' r _ h
    obtain ⟨c, -, h⟩ := bind_ok_iff.mp h
    cases h
    exact literalRegex_inOrder flags c
  | dot =>
    intro flags flags' r _ h
    obtain ⟨s, hs, h⟩ := bind_ok_iff.mp h
    cases h
    exact dotRegex_inOrder hs
  | assertion a =>
    intro flags flags' r _ h
    cases h
    trivial
  | short kind negated =>
    intro flags flags' r _ h
    obtain ⟨s, -, h⟩ := bind_ok_iff.mp h
    cases h
    trivial
  | property name negated =>
    intro flags flags' r _ h
    obtain ⟨s, -, h⟩ := bind_ok_iff.mp h
    cases h
    trivial
  | bracket negated inside =>
    intro flags flags' r _ h
    obtain ⟨s, -, h⟩ := bind_ok_iff.mp h
    obtain ⟨t, -, h⟩ := bind_ok_iff.mp h
    cases h
    trivial
  | rep min max body ih =>
    intro flags flags' r hast h
    obtain ⟨x, hbody, h⟩ := bind_ok_iff.mp h
    cases h
    exact repeated_inOrder hast.1 (ih hast.2 hbody)
  | capture body ih =>
    intro flags flags' r hast h
    obtain ⟨x, hbody, h⟩ := bind_ok_iff.mp h
    cases h
    show x.1.InOrder
    exact ih hast hbody
  | group change body ih =>
    intro flags flags' r hast h
    obtain ⟨x, hbody, h⟩ := bind_ok_iff.mp h
    cases h
    exact ih hast hbody
  | seq a b iha ihb =>
    intro flags flags' r hast h
    obtain ⟨x, ha, h⟩ := bind_ok_iff.mp h
    obtain ⟨y, hb, h⟩ := bind_ok_iff.mp h
    cases h
    exact ⟨iha hast.1 ha, ihb hast.2 hb⟩
  | alt a b iha ihb =>
    intro flags flags' r hast h
    obtain ⟨x, ha, h⟩ := bind_ok_iff.mp h
    obtain ⟨y, hb, h⟩ := bind_ok_iff.mp h
    cases h
    exact ⟨iha hast.1 ha, ihb hast.2 hb⟩

/-- What a text means: the meaning of its tree under the first flags. -/
theorem ofText_ok_iff {s : List Char} {r : Regex} :
    ofText s = .ok r ↔ ∃ ast flags, read s = .ok ast ∧ ast.meaning .initial = .ok (r, flags) := by
  unfold ofText
  rw [bind_ok_iff]
  constructor
  · rintro ⟨ast, hread, h⟩
    obtain ⟨⟨r', flags⟩, hmeaning, heq⟩ := bind_ok_iff.mp h
    cases heq
    exact ⟨ast, flags, hread, hmeaning⟩
  · rintro ⟨ast, flags, hread, hmeaning⟩
    exact ⟨ast, hread, bind_ok_iff.mpr ⟨_, hmeaning, rfl⟩⟩

theorem ofText_inOrder {s : List Char} {r : Regex} (h : ofText s = .ok r) : r.InOrder := by
  obtain ⟨ast, flags, hread, hmeaning⟩ := ofText_ok_iff.mp h
  exact meaning_inOrder (read_inOrder hread) hmeaning

end ProxyRouting.Regex
