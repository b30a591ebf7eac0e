/-
  GrammarLint/Proofs/Session/Durability.lean
  ==========================================
  **When a value that was kept is in the state file** — for every sequence of calls, and
  whatever becomes of the writing and renaming in each of them.

  `Kept` is a vault some calls after its state file was opened, with the entries that the
  file has come to hold.  Those are the entries in memory as long as no call failed.  A
  call that fails leaves the file behind, and from then on a call that finds its value in
  memory answers that all is well without looking into the file.  `set_durable_iff` says
  exactly which answers can be relied upon, and `retry_not_durable` is the shortest story
  of one that cannot.
-/
import GrammarLint.Proofs.Session.Vault

namespace GrammarLint.Vault

open Sandbox

variable {m : Machine} {path : String}

/-! ### Vaults after some calls -/

/-- Whether a call replaced the state file. -/
def Replaced (result : Except StoreError Unit) (w w' : World) : Prop :=
  result = .ok () ∧ w'.attempts ≠ w.attempts

/-- **A vault after some calls**, with the entries that were last written to its state
    file, and whether a call has failed since.  Between the calls anything may happen that
    leaves the state file alone. -/
inductive Kept (m : Machine) (path : String) : Vault → World → Entries → Bool → Prop
  | opened {v : Vault} {w w' : World} (h : (openFile m.host path).run w = (.ok v, w')) :
    Kept m path v w' v.entries false
  | replaced {v v' : Vault} {w w' : World} {saved : Entries} {behind : Bool} {key value : String}
    {result : Except StoreError Unit} (before : Kept m path v w saved behind)
    (h : (v.set m.host key value).run w = ((result, v'), w')) (file : Replaced result w w') :
    Kept m path v' w' v'.entries false
  | stayed {v v' : Vault} {w w' : World} {saved : Entries} {behind : Bool} {key value : String}
    {result : Except StoreError Unit} (before : Kept m path v w saved behind)
    (h : (v.set m.host key value).run w = ((result, v'), w')) (file : ¬ Replaced result w w') :
    Kept m path v' w' saved (behind || !result.isOk)
  | elsewhere {v : Vault} {w w' : World} {saved : Entries} {behind : Bool}
    (before : Kept m path v w saved behind) (same : w'.disk.node? path = w.disk.node? path) :
    Kept m path v w' saved behind

/-- What holds after all calls: the state file opens as the saved entries, and unless a
    call has failed since, those are the entries in memory. -/
structure InStep (path : String) (v : Vault) (w : World) (saved : Entries) (behind : Bool) :
    Prop where
  path_eq : v.path = some path
  file : stored w.disk path = some saved
  memory : behind = false → saved = v.entries

/-- A call that does not replace the file leaves it as it was. -/
theorem Setting.node?_of_not_replaced {key value : String} {v : Vault} {w w' : World}
    {result : Except StoreError Unit} (h : Setting path key value v w result w')
    (hfile : ¬ Replaced result w w') : w'.disk.node? path = w.disk.node? path := by
  cases h with
  | kept there file same attempts failures => exact same
  | written file attempts failures => exact absurd ⟨rfl, Nat.ne_of_gt attempts⟩ hfile
  | failed e same attempts failures => exact same

/-- A call that replaces the file writes all that is in memory. -/
theorem Setting.node?_of_replaced {key value : String} {v : Vault} {w w' : World}
    {result : Except StoreError Unit} (h : Setting path key value v w result w')
    (hfile : Replaced result w w') :
    w'.disk.node? path = some (.file (render (v.holding key value).entries).toUTF8) := by
  cases h with
  | kept there file same attempts failures => exact absurd attempts hfile.2
  | written file attempts failures => exact file
  | failed e same attempts failures => cases hfile.1

theorem Setting.stored_of_not_replaced {key value : String} {v : Vault} {w w' : World}
    {result : Except StoreError Unit} (h : Setting path key value v w result w')
    (hfile : ¬ Replaced result w w') : stored w'.disk path = stored w.disk path :=
  stored_of_node? (h.node?_of_not_replaced hfile)

/-- A call that replaces the file brings it in step with the memory. -/
theorem Setting.stored_of_replaced {key value : String} {v : Vault} {w w' : World}
    {result : Except StoreError Unit} (h : Setting path key value v w result w')
    (hfile : Replaced result w w') :
    stored w'.disk path = some (v.holding key value).entries :=
  stored_of_written (h.node?_of_replaced hfile)

/-- **One call.** -/
theorem InStep.set (h : m.Spares path) (htemporary : m.Spares (temporary path)) {v v' : Vault}
    {w w' : World} {saved : Entries} {behind : Bool} {key value : String}
    {result : Except StoreError Unit} (hstep : InStep path v w saved behind)
    (hrun : (v.set m.host key value).run w = ((result, v'), w')) :
    v' = v.holding key value ∧ Setting path key value v w result w' ∧
      (Replaced result w w' → InStep path v' w' v'.entries false) ∧
      (¬ Replaced result w w' → InStep path v' w' saved (behind || !result.isOk)) := by
  obtain ⟨result', w'', hrun', hsetting⟩ := set_run h htemporary hstep.path_eq key value w
  rw [hrun] at hrun'
  cases hrun'
  refine ⟨rfl, hsetting, ?_, ?_⟩
  · intro hfile
    exact ⟨hstep.path_eq, hsetting.stored_of_replaced hfile, fun _ => rfl⟩
  · intro hfile
    refine ⟨hstep.path_eq, (hsetting.stored_of_not_replaced hfile).trans hstep.file, ?_⟩
    intro hbehind
    cases hsetting with
    | kept there file same attempts failures =>
      rw [holding_of_get? there]
      exact hstep.memory (by simpa [Except.isOk, Except.toBool] using hbehind)
    | written file attempts failures => exact absurd ⟨rfl, Nat.ne_of_gt attempts⟩ hfile
    | failed e same attempts failures => simp [Except.isOk, Except.toBool] at hbehind

theorem Kept.inStep (h : m.Spares path) (htemporary : m.Spares (temporary path)) {v : Vault}
    {w : World} {saved : Entries} {behind : Bool} (hkept : Kept m path v w saved behind) :
    InStep path v w saved behind := by
  -- Along the calls; only one that fails can put the memory ahead of the file.
  induction hkept with
  | @opened v w w' hopen =>
    have hrun := openFile_run h w
    have hsame := (goes_openFile path w).nodes path h List.not_mem_nil
    rw [hopen] at hrun hsame
    obtain ⟨entries, hstored, rfl⟩ := Option.map_eq_some_iff.mp hrun.symm
    exact ⟨rfl, (stored_of_node? hsame).trans hstored, fun _ => rfl⟩
  | replaced before hrun file ih => exact (ih.set h htemporary hrun).2.2.1 file
  | stayed before hrun file ih => exact (ih.set h htemporary hrun).2.2.2 file
  | elsewhere before same ih =>
    exact ⟨ih.path_eq, (stored_of_node? same).trans ih.file, ih.memory⟩

/-! ### What an answer is worth -/

/-- The claim of an answer: the state file opens now, with the value under the key and,
    under every other key, what the vault has there. -/
def Durable (m : Machine) (path key value : String) (v : Vault) (w : World) : Prop :=
  ∃ u, ((openFile m.host path).run w).1 = .ok u ∧ u.get? key = some value ∧
    ∀ k, k ≠ key → u.get? k = v.get? k

theorem durable_iff (h : m.Spares path) {key value : String} {v : Vault} {w : World}
    {entries : Entries} (hstored : stored w.disk path = some entries)
    (hvalue : v.get? key = some value) :
    Durable m path key value v w ↔ entries = v.entries := by
  have hopen := openFile_of_stored h hstored
  constructor
  · rintro ⟨u, hu, hkey, hothers⟩
    rw [hu] at hopen
    cases hopen
    refine Entries.ext_get? fun k => ?_
    by_cases hk : k = key
    · subst hk
      exact hkey.trans hvalue.symm
    · exact hothers k hk
  · rintro rfl
    exact ⟨_, hopen, hvalue, fun _ _ => rfl⟩

/-- **What an answer is worth.**  After any calls, whatever became of them, a call that
    answers that the value is kept tells the truth about the state file exactly if it has
    replaced the file or the file was in step with the memory before; it was if no call
    has failed since the file was last replaced.  A call that fails says so, and leaves the
    file opening as before. -/
theorem set_durable_iff (h : m.Spares path) (htemporary : m.Spares (temporary path)) {v : Vault}
    {w : World} {saved : Entries} {behind : Bool} (hkept : Kept m path v w saved behind)
    (key value : String) :
    ∃ result v' w', (v.set m.host key value).run w = ((result, v'), w') ∧
      v'.get? key = some value ∧ (∀ k, k ≠ key → v'.get? k = v.get? k) ∧
      (result = .ok () →
        (Durable m path key value v' w' ↔ w'.attempts ≠ w.attempts ∨ saved = v.entries)) ∧
      (behind = false → saved = v.entries) ∧
      (result ≠ .ok () →
        ((openFile m.host path).run w').1.toOption = some ⟨some path, saved⟩) := by
  have hstep := hkept.inStep h htemporary
  obtain ⟨result, w', hrun, hsetting⟩ := set_run h htemporary hstep.path_eq key value w
  have hvalue := v.get?_holding_self key value
  refine ⟨result, v.holding key value, w', hrun, hvalue,
    fun k hk => v.get?_holding_of_ne value hk, ?_, hstep.memory, ?_⟩
  · rintro rfl
    by_cases hfile : Replaced (.ok ()) w w'
    · rw [durable_iff h (hsetting.stored_of_replaced hfile) hvalue]
      exact ⟨fun _ => Or.inl hfile.2, fun _ => rfl⟩
    · -- The value was found in memory, and the file was not looked into.
      have hsame : w'.attempts = w.attempts :=
        Decidable.of_not_not fun hne => hfile ⟨rfl, hne⟩
      have hthere : v.get? key = some value := by
        cases hsetting with
        | kept there file same attempts failures => exact there
        | written file attempts failures => exact absurd hsame (Nat.ne_of_gt attempts)
      rw [durable_iff h ((hsetting.stored_of_not_replaced hfile).trans hstep.file) hvalue,
        holding_of_get? hthere]
      constructor
      · exact Or.inr
      · rintro (hne | heq)
        · exact absurd hsame hne
        · exact heq
  · intro hfailed
    have hfile : ¬ Replaced result w w' := fun hreplaced => hfailed hreplaced.1
    rw [openFile_run h, hsetting.stored_of_not_replaced hfile, hstep.file]
    rfl

/-! ### An answer that is worth nothing -/

/-- A machine on which the third attempt to change the disk fails. -/
def faltering : Machine where
  run _ disk _ _ := (.notStarted "", disk)
  fate n _ := if n = 2 then .failed else .done

theorem faltering_spares (path : String) : faltering.Spares path :=
  ⟨fun _ _ => rfl, fun _ _ _ _ => rfl⟩

/-- The vault and the machine after one value was kept and the next one was not. -/
theorem kept_faltering :
    let opened := (openFile faltering.host "state").run (.ofDisk .empty)
    let first := ((⟨some "state", .empty⟩ : Vault).set faltering.host "key" "old").run opened.2
    let second := (first.1.2.set faltering.host "key" "new").run first.2
    Kept faltering "state" second.1.2 second.2 first.1.2.entries true := by
  intro opened first second
  have hopen : (openFile faltering.host "state").run (.ofDisk .empty) =
      (.ok ⟨some "state", .empty⟩, opened.2) := rfl
  have hopened : Kept faltering "state" ⟨some "state", .empty⟩ opened.2 .empty false :=
    .opened hopen
  have hset : ((⟨some "state", .empty⟩ : Vault).set faltering.host "key" "old").run opened.2 =
      ((.ok (), first.1.2), first.2) := rfl
  have hfirst : Kept faltering "state" first.1.2 first.2 first.1.2.entries false :=
    hopened.replaced hset ⟨rfl, by decide⟩
  have hset' : (first.1.2.set faltering.host "key" "new").run first.2 =
      ((.error (.write "key" plannedError.message), second.1.2), second.2) := rfl
  exact hfirst.stayed hset' fun h => by cases h.1

/-- **A second try is not durable.**  A value is kept, the next one fails to be written,
    and the same call again answers that it is kept; the file holds the old one. -/
theorem retry_not_durable :
    let opened := (openFile faltering.host "state").run (.ofDisk .empty)
    let first := ((⟨some "state", .empty⟩ : Vault).set faltering.host "key" "old").run opened.2
    let second := (first.1.2.set faltering.host "key" "new").run first.2
    let third := (second.1.2.set faltering.host "key" "new").run second.2
    first.1.1 = .ok () ∧ second.1.1 ≠ .ok () ∧ third.1.1 = .ok () ∧
      ¬ Durable faltering "state" "key" "new" third.1.2 third.2 := by
  intro opened first second third
  refine ⟨rfl, nofun, rfl, ?_⟩
  obtain ⟨result, v', w', hrun, -, -, hdurable, -, -⟩ :=
    set_durable_iff (faltering_spares _) (faltering_spares _) kept_faltering "key" "new"
  have hthird : third = ((result, v'), w') := hrun
  have hresult : result = .ok () := by
    have hok : third.1.1 = .ok () := rfl
    rw [hthird] at hok
    exact hok
  have hattempts : w'.attempts = second.2.attempts := by
    have hsame : third.2.attempts = second.2.attempts := rfl
    rw [hthird] at hsame
    exact hsame
  rw [hthird]
  intro hyes
  rcases (hdurable hresult).mp hyes with hne | heq
  · exact hne hattempts
  · have hvalue : first.1.2.entries.get? "key" = second.1.2.entries.get? "key" :=
      congrArg (Entries.get? · "key") heq
    exact absurd hvalue (by decide)

end GrammarLint.Vault
