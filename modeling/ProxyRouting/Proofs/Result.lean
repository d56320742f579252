/-!
# Results

When a computation that may fault gives a result, and what is left of it if faults are all the same.

    a >>= f = ok y ↔ ∃ x, a = ok x ∧ f x = ok y                                 (bind_ok_iff)
    (a >>= f).toOption = a.toOption.bind fun x => (f x).toOption              (toOption_bind)
-/

namespace ProxyRouting

section

variable {ε α β : Type} {a : Except ε α} {y : β}

theorem bind_ok_iff {f : α → Except ε β} :
    a >>= f = .ok y ↔ ∃ x, a = .ok x ∧ f x = .ok y := by
  cases a with
  | error e =>
    constructor
    · intro h
      cases h
    · rintro ⟨x, hx, -⟩
      cases hx
  | ok x =>
    constructor
    · exact fun h => ⟨x, rfl, h⟩
    · rintro ⟨x', hx, h⟩
      cases hx
      exact h

theorem map_ok_iff {f : α → β} : a.map f = .ok y ↔ ∃ x, a = .ok x ∧ f x = y := by
  cases a with
  | error e =>
    constructor
    · intro h
      cases h
    · rintro ⟨x, hx, -⟩
      cases hx
  | ok x =>
    constructor
    · intro h
      cases h
      exact ⟨x, rfl, rfl⟩
    · rintro ⟨x', hx, rfl⟩
      cases hx
      rfl

theorem toOption_eq_some_iff {x : α} : a.toOption = some x ↔ a = .ok x := by
  cases a <;> simp [Except.toOption]

theorem toOption_eq_none_iff : a.toOption = none ↔ ∃ e, a = .error e := by
  cases a <;> simp [Except.toOption]

theorem toOption_bind (a : Except ε α) (f : α → Except ε β) :
    (a >>= f).toOption = a.toOption.bind fun x => (f x).toOption := by
  cases a <;> rfl

end

end ProxyRouting
