/-
  GrammarLint/Proofs/Sandbox/Mortal.lean
  ======================================
  **Sessions that are killed** — in one of their operations, whatever has become of it.

  A session that is killed in an operation never learns of its end, but the disk is what
  the operation has made of it: a file may be written, in part or not at all, and a file
  may be renamed or not.  As the number of the operation and its fate are arbitrary, the
  disk at the moment of the kill is what it can be at any point between two changes of it.
  What was renamed up to then is counted.
-/
import GrammarLint.Proofs.Sandbox.Machine

namespace GrammarLint.Sandbox

variable {α β : Type}

/-- A machine, and how many renamings were carried out on it. -/
structure Trace where
  world : World
  renamings : Nat

/-- What a session does that can be killed. -/
abbrev Mortal (α : Type) : Type := OptionT (StateM Trace) α

namespace Mortal

/-- The answer, unless the session was killed before, and what there is then. -/
def after (x : Mortal α) (t : Trace) : Option α × Trace := x.run.run t

theorem after_pure (a : α) (t : Trace) : after (pure a : Mortal α) t = (some a, t) := rfl

/-- Nothing is done any more once the session was killed. -/
theorem after_bind_of_none {x : Mortal α} {t t' : Trace} (h : x.after t = (none, t'))
    (f : α → Mortal β) : after (x >>= f) t = (none, t') := by
  unfold after at h ⊢
  simp only [OptionT.run_bind, Option.elimM, run_bind_state, h]
  rfl

theorem after_bind_of_some {x : Mortal α} {a : α} {t t' : Trace} (h : x.after t = (some a, t'))
    (f : α → Mortal β) : after (x >>= f) t = (f a).after t' := by
  unfold after at h ⊢
  simp only [OptionT.run_bind, Option.elimM, run_bind_state, h]
  rfl

/-- An operation of a session that is killed in the operation with the number `last`, or
    else in the first one after it. -/
def operate (last : Nat) (x : StateM World α) (renamings : α → Nat) : Mortal α :=
  OptionT.mk fun t =>
    let (a, world) := x.run t.world
    (if t.world.moment < last then some a else none, ⟨world, t.renamings + renamings a⟩)

end Mortal

/-- How many renamings were carried out, by the answer to an attempt at one. -/
def renamingCount : Except FileError Unit → Nat
  | .ok _ => 1
  | .error _ => 0

/-- A machine on which the session is killed. -/
def Machine.mortal (m : Machine) (last : Nat) : Host Mortal where
  readFile path := .operate last (m.host.readFile path) fun _ => 0
  pathExists path := .operate last (m.host.pathExists path) fun _ => 0
  writeFile path bytes := .operate last (m.host.writeFile path bytes) fun _ => 0
  rename source target := .operate last (m.host.rename source target) renamingCount
  launch program text := .operate last (m.host.launch program text) fun _ => 0
  now := .operate last m.host.now fun _ => 0
  sleep ms := .operate last (m.host.sleep ms) fun _ => 0
  write stream text := .operate last (m.host.write stream text) fun _ => 0

namespace Machine

variable (m : Machine) (last : Nat) (t : Trace)

theorem after_pathExists (path : String) :
    ((m.mortal last).pathExists path).after t =
      (if t.world.moment < last then some ((m.turn t.world).disk.node? path).isSome else none,
        ⟨m.turn t.world, t.renamings⟩) := by
  rw [← Disk.pathExists_eq]
  rfl

theorem after_writeText (path text : String) :
    ((m.mortal last).writeText path text).after t =
      (if t.world.moment < last then some ((m.host.writeText path text).run t.world).1 else none,
        ⟨((m.host.writeText path text).run t.world).2, t.renamings⟩) := rfl

theorem after_rename (source target : String) :
    ((m.mortal last).rename source target).after t =
      (if t.world.moment < last then some ((m.host.rename source target).run t.world).1 else none,
        ⟨((m.host.rename source target).run t.world).2,
          t.renamings + renamingCount ((m.host.rename source target).run t.world).1⟩) := rfl

end Machine

end GrammarLint.Sandbox
