/-
  GrammarLint/Proofs/Sandbox/Machine.lean
  =======================================
  **What the operations of a machine leave alone** — each of them, whatever its fate and
  whatever others do meanwhile.

  A machine spares a path if nobody but the session changes what the path leads to.  An
  attempt of the session that is carried out does what the disk does; one that fails
  leaves every other destination as it was.  `Course` is what can be said of a way that a
  session has gone, operation by operation; courses are put together as computations are.
  What operations answer is what the disk answers once the others have had their turn.
-/
import GrammarLint.Proofs.Run
import GrammarLint.Proofs.Sandbox.Disk
import GrammarLint.Sandbox.Machine

namespace GrammarLint.Sandbox

open Disk

/-! ### Attempts -/

namespace Fate

variable {d : Disk}

theorem write_ok {fate : Fate} {path : String} {bytes : ByteArray}
    (h : (fate.write d path bytes).1 = .ok ()) :
    d.write path bytes = .ok (fate.write d path bytes).2 := by
  cases fate with
  | done =>
    unfold write at h ⊢
    cases hwrite : d.write path bytes with
    | ok d' => rfl
    | error e =>
      rw [hwrite] at h
      cases h
  | cut n => cases h
  | failed => cases h

theorem write_of_writable {path : String} (h : d.Writable path) (bytes : ByteArray) :
    (Fate.done.write d path bytes).1 = .ok () := by
  unfold write
  rw [write_eq_ok_iff.mpr ⟨h, rfl⟩]
  rfl

/-- Whatever becomes of an attempt to write, all other destinations stay. -/
theorem node?_write_of_ne (fate : Fate) {path other : String} (bytes : ByteArray)
    (hne : destination other ≠ destination path) :
    (fate.write d path bytes).2.node? other = d.node? other := by
  have hsettled : ∀ bytes, (settled d (d.write path bytes)).2.node? other = d.node? other := by
    intro bytes
    cases hwrite : d.write path bytes with
    | ok d' => exact Disk.node?_write_of_ne hwrite hne
    | error e => rfl
  cases fate with
  | done => exact hsettled bytes
  | cut n => exact hsettled _
  | failed => rfl

/-- Whatever becomes of an attempt to write, what could be written before can be still. -/
theorem writable_write (fate : Fate) {path other : String} (bytes : ByteArray)
    (h : d.Writable other) : (fate.write d path bytes).2.Writable other := by
  have hsettled : ∀ bytes, (settled d (d.write path bytes)).2.Writable other := by
    intro bytes
    cases hwrite : d.write path bytes with
    | ok d' => exact h.of_sameDirectories (sameDirectories_write hwrite)
    | error e => exact h
  cases fate with
  | done => exact hsettled bytes
  | cut n => exact hsettled _
  | failed => exact h

theorem rename_ok {fate : Fate} {source target : String}
    (h : (fate.rename d source target).1 = .ok ()) :
    d.rename source target = .ok (fate.rename d source target).2 := by
  cases fate with
  | done =>
    unfold rename at h ⊢
    cases hrename : d.rename source target with
    | ok d' => rfl
    | error e =>
      rw [hrename] at h
      cases h
  | cut n => cases h
  | failed => cases h

theorem rename_error {fate : Fate} {source target : String} {e : FileError}
    (h : (fate.rename d source target).1 = .error e) :
    (fate.rename d source target).2 = d := by
  cases fate with
  | done =>
    unfold rename at h ⊢
    cases hrename : d.rename source target with
    | ok d' =>
      rw [hrename] at h
      cases h
    | error e => rfl
  | cut n => rfl
  | failed => rfl

theorem node?_rename_of_ne (fate : Fate) {source target other : String}
    (hsource : destination other ≠ destination source)
    (htarget : destination other ≠ destination target) :
    (fate.rename d source target).2.node? other = d.node? other := by
  cases hresult : (fate.rename d source target).1 with
  | ok _ => exact Disk.node?_rename_of_ne (rename_ok hresult) hsource htarget
  | error e => rw [rename_error hresult]

theorem writable_rename (fate : Fate) {source target other : String} (h : d.Writable other) :
    (fate.rename d source target).2.Writable other := by
  cases hresult : (fate.rename d source target).1 with
  | ok _ => exact h.of_sameDirectories (sameDirectories_rename (rename_ok hresult))
  | error e => rwa [rename_error hresult]

end Fate

/-! ### Others -/

/-- Nobody but the session changes what a path leads to. -/
structure Machine.Spares (m : Machine) (path : String) : Prop where
  meanwhile : ∀ n d, (m.meanwhile n d).node? path = d.node? path
  run : ∀ launches d program text, (m.run launches d program text).2.node? path = d.node? path

theorem Machine.Spares.turn {m : Machine} {path : String} (h : m.Spares path) (w : World) :
    (m.turn w).disk.node? path = w.disk.node? path :=
  h.meanwhile w.moment w.disk

/-- A machine that nobody else works on and that runs no programs. -/
def Machine.solitary (fate : Nat → String → Fate) : Machine where
  run _ disk _ _ := (.notStarted "", disk)
  fate := fate

theorem Machine.solitary_spares (fate : Nat → String → Fate) (path : String) :
    (solitary fate).Spares path :=
  ⟨fun _ _ => rfl, fun _ _ _ _ => rfl⟩

/-- A file can be made at a path as long as there is a place for it. -/
structure Machine.Grants (m : Machine) (path : String) : Prop where
  meanwhile : ∀ n d, d.Writable path → (m.meanwhile n d).Writable path
  run : ∀ launches d program text, d.Writable path →
    (m.run launches d program text).2.Writable path
  fate : ∀ n, m.fate n path = .done

theorem Machine.Grants.turn {m : Machine} {path : String} (h : m.Grants path) {w : World}
    (hwritable : w.disk.Writable path) : (m.turn w).disk.Writable path :=
  h.meanwhile w.moment w.disk hwritable

/-! ### Courses -/

/-- **The way a session has gone on a machine**: nothing but the places that it touched is
    different where others leave it alone, the programs `new` were run, and attempts may
    have failed. -/
structure Machine.Course (m : Machine) (touched : List Place) (new : List (Program × String))
    (w w' : World) : Prop where
  nodes : ∀ path, m.Spares path → destination path ∉ touched →
    w'.disk.node? path = w.disk.node? path
  writable : ∀ path, m.Grants path → w.disk.Writable path → w'.disk.Writable path
  launches : w'.launches.toList = w.launches.toList ++ new
  failures : w.failures ≤ w'.failures

namespace Machine

variable {m : Machine} {touched : List Place} {new later : List (Program × String)}

theorem Course.refl (touched : List Place) (w : World) : m.Course touched [] w w :=
  ⟨fun _ _ _ => rfl, fun _ _ h => h, (List.append_nil _).symm, Nat.le_refl _⟩

theorem Course.trans {w w' w'' : World} (h : m.Course touched new w w')
    (h' : m.Course touched later w' w'') : m.Course touched (new ++ later) w w'' := by
  refine ⟨fun path hspares hne => ?_, fun path hgrants hwritable => ?_, ?_,
    Nat.le_trans h.failures h'.failures⟩
  · rw [h'.nodes path hspares hne, h.nodes path hspares hne]
  · exact h'.writable path hgrants (h.writable path hgrants hwritable)
  · rw [h'.launches, h.launches, List.append_assoc]

theorem Course.mono {touched' : List Place} {w w' : World} (h : m.Course touched new w w')
    (hsub : touched ⊆ touched') : m.Course touched' new w w' :=
  ⟨fun path hspares hne => h.nodes path hspares fun hmem => hne (hsub hmem), h.writable,
    h.launches, h.failures⟩

/-- What others do before an operation is no part of the course. -/
theorem Course.turn (touched : List Place) (w : World) : m.Course touched [] w (m.turn w) :=
  ⟨fun _ hspares _ => hspares.turn w, fun _ hgrants => hgrants.turn,
    (List.append_nil _).symm, Nat.le_refl _⟩

/-- A computation that goes along a course from every state. -/
def Goes (m : Machine) (touched : List Place) (new : List (Program × String)) {α : Type}
    (x : StateM World α) : Prop :=
  ∀ w, m.Course touched new w (x.run w).2

theorem goes_pure {α : Type} (touched : List Place) (a : α) :
    m.Goes touched [] (pure a : StateM World α) := Course.refl touched

theorem Goes.mono {α : Type} {touched' : List Place} {x : StateM World α}
    (h : m.Goes touched new x) (hsub : touched ⊆ touched') : m.Goes touched' new x :=
  fun w => (h w).mono hsub

theorem Goes.bind {α β : Type} {x : StateM World α} {f : α → StateM World β}
    (hx : m.Goes touched new x) (hf : ∀ a, m.Goes touched later (f a)) :
    m.Goes touched (new ++ later) (x >>= f) :=
  fun w => (hx w).trans (hf _ _)

/-! ### The courses of the operations -/

theorem goes_readFile (path : String) : m.Goes [] [] (m.host.readFile path) := Course.turn []

theorem goes_pathExists (path : String) : m.Goes [] [] (m.host.pathExists path) := Course.turn []

theorem goes_sleep (ms : Nat) : m.Goes [] [] (m.host.sleep ms) := fun w =>
  ⟨fun _ hspares _ => hspares.turn w, fun _ hgrants => hgrants.turn,
    (List.append_nil _).symm, Nat.le_refl _⟩

theorem goes_write (stream : Stream) (text : String) :
    m.Goes [] [] (m.host.write stream text) := fun w =>
  ⟨fun _ hspares _ => hspares.turn w, fun _ hgrants => hgrants.turn,
    (List.append_nil _).symm, Nat.le_refl _⟩

theorem goes_launch (program : Program) (text : String) :
    m.Goes [] [(program, text)] (m.host.launch program text) := by
  intro w
  refine ⟨fun path hspares _ => ?_, fun path hgrants hwritable => ?_, Array.toList_push,
    Nat.le_refl _⟩
  · exact (hspares.run _ _ _ _).trans (hspares.turn w)
  · exact hgrants.run _ _ _ _ (hgrants.turn hwritable)

theorem goes_writeFile (path : String) (bytes : ByteArray) :
    m.Goes [destination path] [] (m.host.writeFile path bytes) := by
  intro w
  refine ⟨fun other hspares hne => ?_, fun other hgrants hwritable => ?_,
    (List.append_nil _).symm, Nat.le_add_right _ _⟩
  · have hplaces : destination other ≠ destination path := fun heq =>
      hne (List.mem_singleton.mpr heq)
    exact (Fate.node?_write_of_ne _ bytes hplaces).trans (hspares.turn w)
  · exact Fate.writable_write _ bytes (hgrants.turn hwritable)

theorem goes_rename (source target : String) :
    m.Goes [destination source, destination target] [] (m.host.rename source target) := by
  intro w
  refine ⟨fun other hspares hne => ?_, fun other hgrants hwritable => ?_,
    (List.append_nil _).symm, Nat.le_add_right _ _⟩
  · rw [List.mem_cons, List.mem_singleton, not_or] at hne
    exact (Fate.node?_rename_of_ne _ hne.1 hne.2).trans (hspares.turn w)
  · exact Fate.writable_rename _ (hgrants.turn hwritable)

theorem goes_readText (path : String) : m.Goes [] [] (m.host.readText path) := by
  refine (goes_readFile path).bind fun result => ?_
  cases result with
  | error e => exact goes_pure _ _
  | ok bytes =>
    dsimp only
    cases Text.read? bytes <;> exact goes_pure _ _

/-! ### What operations answer -/

/-- Whether an attempt failed, as a number. -/
def failureCount : Except FileError Unit → Nat
  | .ok _ => 0
  | .error _ => 1

theorem failures_writeFile (m : Machine) (path : String) (bytes : ByteArray) (w : World) :
    ((m.host.writeFile path bytes).run w).2.failures =
      w.failures + failureCount ((m.host.writeFile path bytes).run w).1 := rfl

theorem failures_rename (m : Machine) (source target : String) (w : World) :
    ((m.host.rename source target).run w).2.failures =
      w.failures + failureCount ((m.host.rename source target).run w).1 := rfl

/-- A file that was written is what was written. -/
theorem node?_of_writeFile {path : String} {bytes : ByteArray} {w : World}
    (h : ((m.host.writeFile path bytes).run w).1 = .ok ()) :
    ((m.host.writeFile path bytes).run w).2.disk.node? path = some (.file bytes) :=
  Disk.node?_write_self (Fate.write_ok h)

/-- A file can be written as long as there is a place for it. -/
theorem writeFile_of_writable {path : String} (h : m.Grants path) {w : World}
    (hwritable : w.disk.Writable path) (bytes : ByteArray) :
    ((m.host.writeFile path bytes).run w).1 = .ok () := by
  have hwritten := Fate.write_of_writable (h.turn hwritable) bytes
  rw [← h.fate (m.turn w).attempts] at hwritten
  exact hwritten

/-- **Writing a text.**  The file is what was written, or there is an error; and there is
    none where a file can be made. -/
theorem writeText_run (m : Machine) (path text : String) (w : World) :
    ∃ result w', (m.host.writeText path text).run w = (result, w') ∧
      m.Course [destination path] [] w w' ∧
      (result = .ok () → w'.disk.node? path = some (.file text.toUTF8)) ∧
      (m.Grants path → w.disk.Writable path → result = .ok ()) :=
  ⟨_, _, rfl, goes_writeFile path text.toUTF8 w, node?_of_writeFile,
    fun hgrants hwritable => writeFile_of_writable hgrants hwritable text.toUTF8⟩

/-- A file that was renamed is what it was before. -/
theorem node?_of_rename {source target : String} {w : World}
    (h : ((m.host.rename source target).run w).1 = .ok ()) :
    ((m.host.rename source target).run w).2.disk.node? target =
      (m.turn w).disk.node? source :=
  Disk.node?_rename_target (Fate.rename_ok h)

theorem node?_of_rename_error {source target : String} {w : World} {e : FileError}
    (h : ((m.host.rename source target).run w).1 = .error e) :
    ((m.host.rename source target).run w).2.disk = (m.turn w).disk :=
  Fate.rename_error h

theorem pathExists_run (m : Machine) (path : String) (w : World) :
    (m.host.pathExists path).run w = (((m.turn w).disk.node? path).isSome, m.turn w) :=
  congrArg (·, m.turn w) (Disk.pathExists_eq _ path)

/-- The text of a file is what is on the disk at the moment of reading. -/
theorem readText_run (m : Machine) (path : String) (w : World) :
    ∃ result, (m.host.readText path).run w = (result, m.turn w) ∧
      result.toOption = (m.turn w).disk.text? path := by
  have hfile : (m.host.readFile path).run w = ((m.turn w).disk.read path, m.turn w) := rfl
  simp only [Host.readText, run_bind_state, hfile]
  cases hread : (m.turn w).disk.read path with
  | error e =>
    refine ⟨.error e, rfl, ?_⟩
    rw [Disk.text?_of_read_error hread]
    rfl
  | ok bytes =>
    have htext : (m.turn w).disk.text? path = Text.read? bytes := by
      rw [Disk.text?, Disk.read_eq_ok_iff.mp hread, Text.read?]
    rw [htext]
    dsimp only
    cases Text.read? bytes with
    | some text => exact ⟨.ok text, rfl, rfl⟩
    | none => exact ⟨.error .notUtf8, rfl, rfl⟩

end Machine

end GrammarLint.Sandbox
