import Mathlib.Data.List.Basic
import ProxyRouting.ProxyVariable.Reader

/-!
# Which variables a protocol depends on

A variable is looked up by two spellings of its name, so two environments that agree on both give
it the same value (`AgreesOn`).  What a protocol says is read from its own variable and `no_proxy`
only, and no two of the default protocols share a spelling:

    env.AgreesOn env' (nameFor p) → env.AgreesOn env' "no_proxy" → read env p = read env' p
    p ≠ q → read (env.without (nameFor p)) q = read env q         (p, q default protocols)
-/

namespace ProxyRouting

namespace Environment

/-- The names that a variable is looked up by, in lower and in upper case. -/
def spellings (name : String) : List String :=
  [String.ofList (Unicode.lowercaseOf name.toList), String.ofList (Unicode.uppercaseOf name.toList)]

/-- Both environments have the same values for a variable, in either spelling. -/
def AgreesOn (env env' : Environment) (name : String) : Prop :=
  ∀ spelling ∈ spellings name, env spelling = env' spelling

/-- The environment without a variable, in either spelling. -/
def without (env : Environment) (name : String) : Environment := fun other =>
  if other ∈ spellings name then none else env other

variable {env env' : Environment} {name other : String}

theorem AgreesOn.ignoringCase_eq (h : env.AgreesOn env' name) :
    env.ignoringCase name = env'.ignoringCase name := by
  unfold ignoringCase
  rw [h _ List.mem_cons_self, h _ (List.mem_cons_of_mem _ List.mem_cons_self)]

theorem ignoringCase_without (env : Environment) (name : String) :
    (env.without name).ignoringCase name = none := by
  have hnone : ∀ spelling ∈ spellings name, env.without name spelling = none := fun _ h => if_pos h
  unfold ignoringCase
  rw [hnone _ List.mem_cons_self, hnone _ (List.mem_cons_of_mem _ List.mem_cons_self)]
  rfl

/-- A variable that shares no spelling with another is kept. -/
theorem without_agreesOn (env : Environment) (h : (spellings other).Disjoint (spellings name)) :
    env.AgreesOn (env.without name) other := by
  intro spelling hs
  exact (if_neg (h hs)).symm

/-- The variables of the default protocols and the list of hosts without proxy are told apart by
every spelling. -/
theorem spellings_disjoint : ∀ p ∈ defaultProtocols, ∀ q ∈ "no" :: defaultProtocols, q ≠ p →
    (spellings (ProxyVariable.nameFor q)).Disjoint (spellings (ProxyVariable.nameFor p)) := by
  simp only [List.Disjoint]
  decide +kernel

end Environment

namespace ProxyVariable

open Environment

variable {env env' : Environment} {protocol : String}

/-- What is read for a protocol hangs on its own variable and on `no_proxy` only. -/
theorem read_congr (hown : env.AgreesOn env' (nameFor protocol))
    (hlist : env.AgreesOn env' "no_proxy") : read env protocol = read env' protocol := by
  unfold read
  rw [hown.ignoringCase_eq, hlist.ignoringCase_eq]

theorem read_without (env : Environment) (protocol : String) :
    read (env.without (nameFor protocol)) protocol = (none, []) := by
  unfold read
  rw [ignoringCase_without]
  rfl

theorem read_without_of_ne (env : Environment) {other : String} (hp : protocol ∈ defaultProtocols)
    (hq : other ∈ defaultProtocols) (hne : other ≠ protocol) :
    read (env.without (nameFor protocol)) other = read env other := by
  have hno : "no" ≠ protocol := by
    rintro rfl
    exact absurd hp (by decide)
  have hown := spellings_disjoint protocol hp other (List.mem_cons_of_mem _ hq) hne
  have hlist := spellings_disjoint protocol hp "no" List.mem_cons_self hno
  exact (read_congr (without_agreesOn env hown) (without_agreesOn env hlist)).symm

end ProxyVariable

end ProxyRouting
