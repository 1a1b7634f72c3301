/-!
# Results of steps that may fail

When a result is good that was made from another by mapping it, by going on with it, or after a
check.
-/

namespace Governance

/-- By `map`, a result is good when the one before is. -/
theorem map_eq_ok_iff {ε α β : Type} {x : Except ε α} {g : α → β} {b : β} :
    x.map g = .ok b ↔ ∃ a, x = .ok a ∧ g a = b := by
  cases x <;> simp [Except.map]

/-- One step after another, `f` after `x`, succeeds when both do. -/
theorem bind_eq_ok_iff {ε α β : Type} {x : Except ε α} {f : α → Except ε β} {b : β} :
    (x >>= f) = .ok b ↔ ∃ a, x = .ok a ∧ f a = .ok b := by
  cases x <;> simp [bind, Except.bind]

theorem mapError_eq_ok_iff {ε δ α : Type} {x : Except ε α} {g : ε → δ} {a : α} :
    x.mapError g = .ok a ↔ x = .ok a := by
  cases x with
  | error e => exact ⟨nofun, nofun⟩
  | ok b => exact ⟨fun h => congrArg Except.ok (Except.ok.inj h),
      fun h => congrArg Except.ok (Except.ok.inj h)⟩

/-- A check that is followed by more succeeds when it finds no `fault` and `next` succeeds. -/
theorem guard_eq_ok_iff {ε α : Type} {fault : Prop} [Decidable fault] {e : ε}
    {next : Unit → Except ε α} {a : α} :
    (if fault then Except.error e >>= next else next ()) = .ok a ↔ ¬fault ∧ next () = .ok a := by
  by_cases h : fault <;> simp [h, bind, Except.bind]

end Governance
