/-
  GrammarLint/Pipeline/Debouncer.lean
  ===================================
  **Waiting for a quiet moment** — one action at most is pending, the last one that was
  scheduled, and it is due once no other was scheduled for as long as the delay.

  There is no timer: whoever schedules or asks says what time it is, in milliseconds
  after an origin of their choice, and times need not increase.
-/

namespace GrammarLint

/-- An action and the time from which on it is due. -/
structure Pending (α : Type) where
  action : α
  deadline : Nat
deriving DecidableEq, Repr

/-- A delay and the pending action, if there is one. -/
structure Debouncer (α : Type) where
  delay : Nat
  pending : Option (Pending α)
deriving DecidableEq, Repr

namespace Debouncer

variable {α : Type}

def new (delay : Nat) : Debouncer α := ⟨delay, none⟩

def isPending (d : Debouncer α) : Bool := d.pending.isSome

/-- The time at which the pending action becomes due. -/
def deadline (d : Debouncer α) : Option Nat := d.pending.map (·.deadline)

/-- Schedules an action in place of the pending one; says whether there was one. -/
def schedule (d : Debouncer α) (action : α) (now : Nat) : Bool × Debouncer α :=
  (d.isPending, { d with pending := some ⟨action, now + d.delay⟩ })

def takeDue (d : Debouncer α) (now : Nat) : Option α × Debouncer α :=
  match d.pending with
  | none => (none, d)
  | some p => if now < p.deadline then (none, d) else (some p.action, { d with pending := none })

/-- How long it takes until the pending action is due. -/
def timeUntilDue (d : Debouncer α) (now : Nat) : Option Nat :=
  d.deadline.map (· - now)

def cancel (d : Debouncer α) : Option α × Debouncer α :=
  (d.pending.map (·.action), { d with pending := none })

end Debouncer

end GrammarLint
