import ProxyRouting.Proofs.Result
import ProxyRouting.Regex.Reader

/-!
# Steps of the reader

What one step of the reader can do, as a relation with a constructor for each way in which it
succeeds; and what a run does where a step is next, or nothing is left.

    r.step c s = .ok (r', rest) ↔ Step r c s r' rest                            (step_ok_iff)
-/

namespace ProxyRouting

namespace Regex

namespace Reader

/-! ## Steps -/

/-- The characters that a step treats in a way of their own. -/
def operators : List Char :=
  ['(', ')', '|', '[', '?', '*', '+', '\x7b']

theorem repeatLast_ok_iff {r r' : Reader} {min : Nat} {max : Option Nat} :
    r.repeatLast min max = .ok r' ↔ ∃ item items, r.level.items = item :: items ∧
      (∀ change, item ≠ .flags change) ∧
      { r with level := ⟨r.level.branches, .rep min max item :: items⟩ } = r' := by
  constructor
  · intro h
    unfold repeatLast at h
    split at h
    · cases h
    · cases h
    · next item items hflags hitems =>
      cases h
      exact ⟨item, items, hitems, hflags, rfl⟩
  · rintro ⟨item, items, hitems, hflags, rfl⟩
    unfold repeatLast
    rw [hitems]
    split
    · next heq => cases heq
    · next heq =>
      cases heq
      exact absurd rfl (hflags _)
    · next heq =>
      cases heq
      rfl

/-- Repeats the last item within the bounds, which have to be in order. -/
def repeatBetween (r : Reader) (bounds : Nat × Option Nat) : Except Fault Reader :=
  if bounds.2.any (· < bounds.1) then .error .repetitionInvalid
  else r.repeatLast bounds.1 bounds.2

section

variable (r : Reader) (s : List Char)

theorem step_star : r.step '*' s = r.repeatLast 0 none >>= fun r' => .ok (r', skipLazy s) := rfl

theorem step_brace :
    r.step '\x7b' s = r.repeatLast 0 none >>= fun _ => readBounds r.blanks s >>= fun b =>
      r.repeatBetween b.1 >>= fun r' => .ok (r', skipLazy (skip r.blanks b.2)) := by
  cases hlast : r.repeatLast 0 none with
  | error e =>
    unfold step
    rw [hlast]
    rfl
  | ok last =>
    unfold step
    rw [hlast]
    show (readBounds r.blanks s >>= _) = readBounds r.blanks s >>= _
    refine bind_congr fun b => ?_
    obtain ⟨⟨min, max⟩, rest⟩ := b
    unfold repeatBetween
    show (if max.any (· < min) then _ else _) = (if max.any (· < min) then _ else _) >>= _
    split
    · rfl
    · rfl

theorem step_primitive {c : Char} (hc : c ∉ operators) :
    r.step c s = readPrimitive r.blanks c s >>= fun p => .ok (r.push p.1.toAst, p.2) := by
  unfold step
  split
  case h_9 => rfl
  all_goals exact absurd (by decide) hc

end

/-- The bounds that a single character stands for. -/
def shortBounds : List (Char × Nat × Option Nat) :=
  [('?', 0, some 1), ('*', 0, none), ('+', 1, none)]

/-- What a step can do: one constructor for each way in which it succeeds. -/
inductive Step (r : Reader) : Char → List Char → Reader → List Char → Prop
  | enter {s rest : List Char} {opening : Opening}
      (h : readOpening r.names (skip r.blanks s) = .ok (opening, rest)) :
      Step r '(' s (r.enter opening) rest
  | close {r' : Reader} (h : r.close = .ok r') (s : List Char) : Step r ')' s r' s
  | branch (s : List Char) : Step r '|' s ⟨r.level.branch, r.outer, r.blanks, r.names⟩ s
  | bracket {s rest : List Char} {ast : Ast} (h : readClass r.blanks s = .ok (ast, rest)) :
      Step r '[' s (r.push ast) rest
  | repeated {c : Char} {min : Nat} {max : Option Nat} {r' : Reader}
      (hc : (c, min, max) ∈ shortBounds) (h : r.repeatLast min max = .ok r') (s : List Char) :
      Step r c s r' (skipLazy s)
  | between {s rest : List Char} {bounds : Nat × Option Nat} {last r' : Reader}
      (hlast : r.repeatLast 0 none = .ok last) (hread : readBounds r.blanks s = .ok (bounds, rest))
      (h : r.repeatBetween bounds = .ok r') :
      Step r '\x7b' s r' (skipLazy (skip r.blanks rest))
  | primitive {c : Char} {s rest : List Char} {p : Primitive} (hc : c ∉ operators)
      (h : readPrimitive r.blanks c s = .ok (p, rest)) : Step r c s (r.push p.toAst) rest

theorem Step.step_eq {r r' : Reader} {c : Char} {s rest : List Char} (h : Step r c s r' rest) :
    r.step c s = .ok (r', rest) := by
  cases h with
  | enter h => exact bind_ok_iff.mpr ⟨_, h, rfl⟩
  | close h => exact bind_ok_iff.mpr ⟨_, h, rfl⟩
  | branch => rfl
  | bracket h => exact bind_ok_iff.mpr ⟨_, h, rfl⟩
  | repeated hc h =>
    simp only [shortBounds, List.mem_cons, List.not_mem_nil, or_false, Prod.mk.injEq] at hc
    rcases hc with ⟨rfl, rfl, rfl⟩ | ⟨rfl, rfl, rfl⟩ | ⟨rfl, rfl, rfl⟩
    all_goals exact bind_ok_iff.mpr ⟨_, h, rfl⟩
  | between hlast hread h =>
    rw [step_brace]
    exact bind_ok_iff.mpr ⟨_, hlast, bind_ok_iff.mpr ⟨_, hread, bind_ok_iff.mpr ⟨_, h, rfl⟩⟩⟩
  | primitive hc h =>
    rw [step_primitive _ _ hc]
    exact bind_ok_iff.mpr ⟨_, h, rfl⟩

theorem Step.of_step_eq {r r' : Reader} {c : Char} {s rest : List Char}
    (h : r.step c s = .ok (r', rest)) : Step r c s r' rest := by
  by_cases hc : c ∈ operators
  · simp only [operators, List.mem_cons, List.not_mem_nil, or_false] at hc
    rcases hc with rfl | rfl | rfl | rfl | rfl | rfl | rfl | rfl
    · obtain ⟨o, ho, heq⟩ := bind_ok_iff.mp h
      cases heq
      exact .enter ho
    · obtain ⟨r'', hclose, heq⟩ := bind_ok_iff.mp h
      cases heq
      exact .close hclose s
    · cases h
      exact .branch s
    · obtain ⟨a, ha, heq⟩ := bind_ok_iff.mp h
      cases heq
      exact .bracket ha
    · obtain ⟨r'', hlast, heq⟩ := bind_ok_iff.mp h
      cases heq
      exact .repeated (.head _) hlast s
    · obtain ⟨r'', hlast, heq⟩ := bind_ok_iff.mp h
      cases heq
      exact .repeated (.tail _ (.head _)) hlast s
    · obtain ⟨r'', hlast, heq⟩ := bind_ok_iff.mp h
      cases heq
      exact .repeated (.tail _ (.tail _ (.head _))) hlast s
    · rw [step_brace] at h
      obtain ⟨last, hlast, h⟩ := bind_ok_iff.mp h
      obtain ⟨b, hread, h⟩ := bind_ok_iff.mp h
      obtain ⟨r'', hrepeat, heq⟩ := bind_ok_iff.mp h
      cases heq
      exact .between hlast hread hrepeat
  · rw [step_primitive _ _ hc] at h
    obtain ⟨p, hp, heq⟩ := bind_ok_iff.mp h
    cases heq
    exact .primitive hc hp

/-- The steps that succeed are those of the relation. -/
theorem step_ok_iff {r r' : Reader} {c : Char} {s rest : List Char} :
    r.step c s = .ok (r', rest) ↔ Step r c s r' rest :=
  ⟨.of_step_eq, Step.step_eq⟩

/-! ## Runs -/

theorem run_of_blank {r : Reader} {s : List Char} (hs : skip r.blanks s = []) (fuel : Nat) :
    r.run fuel s = .ok r := by
  unfold run
  rw [hs]

theorem run_of_cons {r : Reader} {s : List Char} {c : Char} {more : List Char}
    (hs : skip r.blanks s = c :: more) (fuel : Nat) :
    r.run (fuel + 1) s = r.step c more >>= fun p => p.1.run fuel p.2 := by
  rw [run, hs]

end Reader

theorem read_ok_iff {s : List Char} {ast : Ast} :
    read s = .ok ast ↔ ∃ r, Reader.start.run s.length s = .ok r ∧ r.outer = [] ∧
      r.level.toAst.depth ≤ nestLimit ∧ r.level.toAst = ast := by
  unfold read
  rw [bind_ok_iff]
  refine exists_congr fun r => and_congr_right fun _ => ?_
  cases r.outer with
  | nil =>
    show (if nestLimit < r.level.toAst.depth then _ else _) = _ ↔ _
    split
    · next hdeep =>
      constructor
      · intro h
        cases h
      · rintro ⟨-, hdepth, -⟩
        omega
    · next hdepth =>
      constructor
      · intro h
        cases h
        exact ⟨rfl, by omega, rfl⟩
      · rintro ⟨-, -, rfl⟩
        rfl
  | cons e outer =>
    constructor
    · intro h
      cases h
    · rintro ⟨h, -⟩
      cases h

end Regex

end ProxyRouting
