/-
  GrammarLint/Proofs/Run.lean
  ===========================
  **Runs of stateful computations** — each part begins with the state that the part before
  it ends with.
-/

namespace GrammarLint

variable {σ τ α β : Type}

-- Not `rfl` but `(rfl)`: these are to be used as equations, as unfolding a whole session to
-- compare its two sides takes minutes.

/-- The second of two computations begins with the state that the first one ends with. -/
theorem run_bind_state (x : StateM σ α) (f : α → StateM σ β) (s : σ) :
    (x >>= f).run s = (f (x.run s).1).run (x.run s).2 := (rfl)

/-- The same with two states. -/
theorem run_bind_states (x : StateT τ (StateM σ) α) (f : α → StateT τ (StateM σ) β) (t : τ)
    (s : σ) :
    ((x >>= f).run t).run s =
      ((f ((x.run t).run s).1.1).run ((x.run t).run s).1.2).run ((x.run t).run s).2 := (rfl)

theorem run_lift (x : StateM σ α) (t : τ) (s : σ) :
    ((StateT.lift x : StateT τ (StateM σ) α).run t).run s = (((x.run s).1, t), (x.run s).2) := (rfl)

theorem toOption_eq_some_iff {ε : Type} {x : Except ε α} {a : α} :
    x.toOption = some a ↔ x = .ok a := by
  cases x with
  | error e => exact ⟨nofun, nofun⟩
  | ok b => exact ⟨fun h => congrArg Except.ok (Option.some.inj h), fun h => h ▸ rfl⟩

/-- What follows an attempt comes to an end only if the attempt does. -/
theorem run_attempt_eq_ok {ε ε' : Type} {x : StateM σ (Except ε α)}
    {f : Except ε α → StateM σ (Except ε' β)} {g : ε → ε'} {s s' : σ} {b : β}
    (h : (x >>= f).run s = (.ok b, s')) (herror : ∀ e, f (.error e) = pure (.error (g e))) :
    ∃ a s₁, x.run s = (.ok a, s₁) ∧ (f (.ok a)).run s₁ = (.ok b, s') := by
  rw [run_bind_state] at h
  rcases hx : x.run s with ⟨_ | a, s₁⟩
  · rw [hx, herror] at h
    cases h
  · rw [hx] at h
    exact ⟨a, s₁, rfl, h⟩

end GrammarLint
