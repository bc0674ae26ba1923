import Intake.Json.Reader

/-!
# What comes of reading

Steps one after the other succeed when each of them does. Where only success matters, and not which
problem was met, an outcome is an option.
-/

namespace Intake

namespace Json

variable {α β : Type} {x : Except Problem α}

theorem bind_eq_ok {f : α → Except Problem β} {b : β} :
    x >>= f = .ok b ↔ ∃ a, x = .ok a ∧ f a = .ok b := by
  cases x <;> simp [bind, Except.bind]

theorem map_eq_ok {f : α → β} {b : β} : x.map f = .ok b ↔ ∃ a, x = .ok a ∧ f a = b := by
  cases x <;> simp [Except.map]

@[simp]
theorem toOption_bind (f : α → Except Problem β) :
    (x >>= f).toOption = x.toOption.bind fun a => (f a).toOption := by
  cases x <;> rfl

@[simp]
theorem toOption_map (f : α → β) : (x.map f).toOption = x.toOption.map f := by
  cases x <;> rfl

@[simp]
theorem toOption_ok (a : α) : (Except.ok a : Except Problem α).toOption = some a := rfl

@[simp]
theorem toOption_error (problem : Problem) :
    (Except.error problem : Except Problem α).toOption = none := rfl

end Json

end Intake
