/-! # Steps that may fail

What it takes for steps that may fail, one after the other or with their results changed, to
succeed.
-/

namespace HealthWatch

variable {ε δ α β : Type}

/-- Steps that may fail succeed when each does. -/
theorem bind_eq_ok {first : Except ε α} {next : α → Except ε β} {result : β} :
    first >>= next = .ok result ↔ ∃ value, first = .ok value ∧ next value = .ok result := by
  cases first with
  | error fault => exact ⟨nofun, nofun⟩
  | ok value =>
      constructor
      · intro done
        exact ⟨value, rfl, done⟩
      · rintro ⟨_, ⟨⟩, done⟩
        exact done

/-- A changed result is a result that was there to be changed. -/
theorem map_eq_ok {outcome : Except ε α} {change : α → β} {result : β} :
    outcome.map change = .ok result ↔ ∃ value, outcome = .ok value ∧ result = change value := by
  cases outcome with
  | error fault => simp [Except.map]
  | ok value => simp [Except.map, eq_comm]

/-- Another fault changes nothing about a result. -/
theorem mapError_eq_ok {outcome : Except ε α} {change : ε → δ} {value : α} :
    outcome.mapError change = .ok value ↔ outcome = .ok value := by
  cases outcome with
  | error fault => exact ⟨nofun, nofun⟩
  | ok other =>
      constructor
      · exact fun same => congrArg Except.ok (Except.ok.inj same)
      · exact fun same => congrArg Except.ok (Except.ok.inj same)

/-- A result is kept when the fault of a failure is forgotten. -/
theorem toOption_eq_some {result : Except ε α} {value : α} :
    result.toOption = some value ↔ result = .ok value := by
  cases result with
  | error fault => exact ⟨nofun, nofun⟩
  | ok other => exact ⟨fun same => congrArg _ (Option.some.inj same), fun same => by rw [same]; rfl⟩

end HealthWatch
