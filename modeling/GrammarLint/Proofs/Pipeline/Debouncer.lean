/-
  GrammarLint/Proofs/Pipeline/Debouncer.lean
  ==========================================
  **When a pending action is due** — `takeDue` and `timeUntilDue` look at one and the same
  thing, the deadline of the pending action.

  `Due` says it once.  Taking releases the action exactly when it is due and otherwise
  touches nothing; the time that is left is zero exactly when it is due.
-/
import GrammarLint.Pipeline.Debouncer

namespace GrammarLint.Debouncer

variable {α : Type}

/-- Whether an action is pending whose deadline is not in the future. -/
def Due (d : Debouncer α) (now : Nat) : Prop :=
  ∃ p, d.pending = some p ∧ p.deadline ≤ now

instance (d : Debouncer α) (now : Nat) : Decidable (d.Due now) :=
  decidable_of_iff (d.pending.any fun p => decide (p.deadline ≤ now)) <| by
    unfold Due
    rcases d.pending with _ | p <;> simp

/-- The debouncer after its pending action was taken. -/
def disarmed (d : Debouncer α) : Debouncer α := { d with pending := none }

theorem takeDue_of_pending {d : Debouncer α} {p : Pending α} {now : Nat}
    (hp : d.pending = some p) (hle : p.deadline ≤ now) :
    d.takeDue now = (some p.action, d.disarmed) := by
  simp only [takeDue, hp]
  rw [if_neg (Nat.not_lt.mpr hle)]
  rfl

theorem takeDue_of_not_due {d : Debouncer α} {now : Nat} (h : ¬ d.Due now) :
    d.takeDue now = (none, d) := by
  unfold takeDue
  split
  · rfl
  · next p hp =>
    have hlt : now < p.deadline := Nat.lt_of_not_le fun hle => h ⟨p, hp, hle⟩
    rw [if_pos hlt]

/-- Taking releases an action exactly when one is due. -/
theorem isSome_takeDue_iff {d : Debouncer α} {now : Nat} :
    (d.takeDue now).1.isSome ↔ d.Due now := by
  by_cases h : d.Due now
  · obtain ⟨p, hp, hle⟩ := h
    rw [takeDue_of_pending hp hle]
    exact ⟨fun _ => ⟨p, hp, hle⟩, fun _ => rfl⟩
  · rw [takeDue_of_not_due h]
    exact ⟨fun hs => absurd hs (by simp), fun hd => absurd hd h⟩

/-- No time is left exactly when an action is due. -/
theorem timeUntilDue_eq_zero_iff {d : Debouncer α} {now : Nat} :
    d.timeUntilDue now = some 0 ↔ d.Due now := by
  simp only [timeUntilDue, deadline, Due]
  rcases d.pending with _ | p
  · simp
  · simp [Nat.sub_eq_zero_iff_le]

/-- The time that is left leads to the first moment at which the action is due. -/
theorem due_add_timeUntilDue {d : Debouncer α} {now left : Nat}
    (h : d.timeUntilDue now = some left) :
    d.Due (now + left) ∧ (0 < left → ∀ t < now + left, ¬ d.Due t) := by
  simp only [timeUntilDue, deadline, Option.map_map, Option.map_eq_some_iff,
    Function.comp_apply] at h
  obtain ⟨p, hp, hleft⟩ := h
  refine ⟨⟨p, hp, by omega⟩, ?_⟩
  rintro hpos t ht ⟨q, hq, hle⟩
  obtain rfl : p = q := Option.some.inj (hp.symm.trans hq)
  omega

end GrammarLint.Debouncer
