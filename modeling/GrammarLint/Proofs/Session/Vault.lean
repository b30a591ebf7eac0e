/-
  GrammarLint/Proofs/Session/Vault.lean
  =====================================
  **What a state file holds** — the entries that it opens as, and what becomes of them
  when a value is kept.

  `stored` reads the state file off a disk.  A state file that was written opens as the
  entries that were written, whatever characters they have.  Keeping a value has one of
  three ends (`Setting`): the value was there already and nothing is written, the whole
  file is replaced, or the file stays what it was and there is an error.  In memory the
  value is kept in all three, so after an error memory and file may disagree.  From then
  on a value that was not written counts as one that is there already, and nothing but
  a value that does change the memory brings them together again.
-/
import GrammarLint.Proofs.Json.StringMap
import GrammarLint.Proofs.Sandbox.Machine
import GrammarLint.Proofs.Store.Entries
import GrammarLint.Session.Vault

namespace GrammarLint

open Sandbox Text

/-- The bytes of a text are read as that text. -/
theorem Text.fromUTF8?_toUTF8 (text : String) : String.fromUTF8? text.toUTF8 = some text := by
  rw [String.toUTF8_eq_toByteArray, String.fromUTF8?, dif_pos text.isValidUTF8]
  rfl

namespace Vault

/-! ### Opening -/

/-- **A state file that was written holds what was written.** -/
theorem parse_render (entries : Entries) : parse (render entries) = .ok entries := by
  rw [parse, render, Json.parse_prettyMap]
  exact congrArg Except.ok (Entries.ofList_toList entries)

/-- What a state file holds, if it opens.  One that is not there holds nothing. -/
def stored (d : Disk) (path : String) : Option Entries :=
  if (d.node? path).isSome then (d.text? path).bind fun text => (parse text).toOption
  else some .empty

theorem stored_of_node? {d d' : Disk} {path : String} (h : d'.node? path = d.node? path) :
    stored d' path = stored d path := by
  simp only [stored, Disk.text?, h]

theorem stored_of_written {d : Disk} {path : String} {entries : Entries}
    (h : d.node? path = some (.file (render entries).toUTF8)) : stored d path = some entries := by
  simp only [stored, Disk.text?, h, Option.isSome_some, if_true, fromUTF8?_toUTF8, Option.bind_some,
    parse_render]
  rfl

variable {m : Machine} {path : String}

/-- **A state file opens exactly as what it holds.** -/
theorem openFile_run (h : m.Spares path) (w : World) :
    ((openFile m.host path).run w).1.toOption =
      (stored w.disk path).map fun entries => ⟨some path, entries⟩ := by
  simp only [openFile, run_bind_state, Machine.pathExists_run, h.turn w]
  cases hthere : (w.disk.node? path).isSome with
  | false =>
    rw [stored, hthere]
    rfl
  | true =>
    obtain ⟨result, hrun, hresult⟩ := m.readText_run path (m.turn w)
    rw [Disk.text?, h.turn, h.turn, ← Disk.text?] at hresult
    simp only [if_true, run_bind_state, hrun]
    rw [stored, hthere, if_pos rfl, ← hresult]
    cases result with
    | error e => rfl
    | ok text =>
      dsimp only [Except.toOption, Option.bind_some]
      cases parse text <;> rfl

theorem openFile_of_stored (h : m.Spares path) {w : World} {entries : Entries}
    (hstored : stored w.disk path = some entries) :
    ((openFile m.host path).run w).1 = .ok ⟨some path, entries⟩ := by
  rw [← toOption_eq_some_iff, openFile_run h, hstored, Option.map_some]

theorem goes_openFile (path : String) : m.Goes [] [] (openFile m.host path) := by
  refine (Machine.goes_pathExists path).bind fun there => ?_
  cases there with
  | false => exact Machine.goes_pure _ _
  | true =>
    refine (Machine.goes_readText path).bind fun result => ?_
    cases result with
    | error e => exact Machine.goes_pure _ _
    | ok text =>
      dsimp only
      cases parse text <;> exact Machine.goes_pure _ _

/-! ### Replacing the file -/

/-- What the writing of a file and its renaming come to. -/
inductive Replacing (path text : String) (w : World) : Except FileError Unit → World → Prop
  | done {w' : World} (file : w'.disk.node? path = some (.file text.toUTF8))
    (attempts : w.attempts < w'.attempts) (failures : w'.failures = w.failures) :
    Replacing path text w (.ok ()) w'
  | failed {w' : World} (e : FileError) (same : w'.disk.node? path = w.disk.node? path)
    (attempts : w.attempts < w'.attempts) (failures : w'.failures = w.failures + 1) :
    Replacing path text w (.error e) w'

theorem destination_temporary_ne (path : String) :
    Disk.destination (temporary path) ≠ Disk.destination path :=
  Disk.destination_append_ne (by decide) (by decide) path

/-- **A file is replaced as a whole**, or it stays as it was. -/
theorem replaceFile_run (h : m.Spares path) (htemporary : m.Spares (temporary path))
    (text : String) (w : World) :
    Replacing path text w ((replaceFile m.host path text).run w).1
      ((replaceFile m.host path text).run w).2 := by
  have hwrite := m.failures_writeFile (temporary path) text.toUTF8 w
  have hattempts : ((m.host.writeFile (temporary path) text.toUTF8).run w).2.attempts =
      w.attempts + 1 := rfl
  have hsame := (Machine.goes_writeFile (temporary path) text.toUTF8 w).nodes path h
    (fun hmem => destination_temporary_ne path (List.mem_singleton.mp hmem).symm)
  simp only [replaceFile, Host.writeText, run_bind_state]
  cases hfirst : ((m.host.writeFile (temporary path) text.toUTF8).run w).1 with
  | error e =>
    rw [hfirst] at hwrite
    exact .failed e hsame (hattempts ▸ Nat.lt_succ_self _) hwrite
  | ok _ =>
    have htext := Machine.node?_of_writeFile hfirst
    rw [hfirst] at hwrite
    generalize ((m.host.writeFile (temporary path) text.toUTF8).run w).2 = w' at *
    have hrename := m.failures_rename (temporary path) path w'
    have hattempts' : ((m.host.rename (temporary path) path).run w').2.attempts =
        w'.attempts + 1 := rfl
    have hlt : w.attempts < ((m.host.rename (temporary path) path).run w').2.attempts := by omega
    dsimp only
    cases hsecond : ((m.host.rename (temporary path) path).run w').1 with
    | error e =>
      rw [hsecond] at hrename
      refine .failed e ?_ hlt (by rw [hrename, hwrite]; rfl)
      rw [Machine.node?_of_rename_error hsecond, h.turn]
      exact hsame
    | ok _ =>
      rw [hsecond] at hrename
      refine .done ?_ hlt (by rw [hrename, hwrite]; rfl)
      rw [Machine.node?_of_rename hsecond, htemporary.turn]
      exact htext

/-! ### Keeping a value -/

/-- A vault with a value under a key. -/
def holding (v : Vault) (key value : String) : Vault :=
  { v with entries := v.entries.insert key value }

theorem get?_holding_self (v : Vault) (key value : String) :
    (v.holding key value).get? key = some value :=
  v.entries.get?_insert_self key value

theorem get?_holding_of_ne (v : Vault) {key k : String} (value : String) (h : k ≠ key) :
    (v.holding key value).get? k = v.get? k :=
  v.entries.get?_insert_of_ne value h

theorem holding_of_get? {v : Vault} {key value : String} (h : v.get? key = some value) :
    v.holding key value = v := by
  rw [holding, Entries.insert_of_get? h]

/-- Keeps a value and replaces the file. -/
def overwrite {n : Type → Type} [Monad n] (host : Host n) (v : Vault) (path key value : String) :
    n (Except StoreError Unit × Vault) := do
  match ← replaceFile host path (render (v.holding key value).entries) with
  | .ok _ => return (.ok (), v.holding key value)
  | .error e => return (.error (.write key e.message), v.holding key value)

/-- A value that is there already is written only if there is no file. -/
theorem set_eq {n : Type → Type} [Monad n] [LawfulMonad n] (host : Host n) {v : Vault}
    (hpath : v.path = some path) (key value : String) :
    v.set host key value =
      if v.get? key = some value then do
        if ← host.pathExists path then return (.ok (), v) else v.overwrite host path key value
      else v.overwrite host path key value := by
  obtain ⟨_, entries⟩ := v
  obtain rfl := hpath
  simp only [set, pure_bind, Bool.false_eq_true, if_false]
  rfl

/-- **All that keeping a value comes to** on the machine: the value is there already, or
    the file is replaced, or it stays as it was. -/
inductive Setting (path key value : String) (v : Vault) (w : World) :
    Except StoreError Unit → World → Prop
  | kept {w' : World} (there : v.get? key = some value) (file : (w.disk.node? path).isSome)
    (same : w'.disk.node? path = w.disk.node? path) (attempts : w'.attempts = w.attempts)
    (failures : w'.failures = w.failures) : Setting path key value v w (.ok ()) w'
  | written {w' : World}
    (file : w'.disk.node? path = some (.file (render (v.holding key value).entries).toUTF8))
    (attempts : w.attempts < w'.attempts) (failures : w'.failures = w.failures) :
    Setting path key value v w (.ok ()) w'
  | failed {w' : World} (e : FileError) (same : w'.disk.node? path = w.disk.node? path)
    (attempts : w.attempts < w'.attempts) (failures : w'.failures = w.failures + 1) :
    Setting path key value v w (.error (.write key e.message)) w'

theorem overwrite_run (h : m.Spares path) (htemporary : m.Spares (temporary path)) (v : Vault)
    (key value : String) (w : World) :
    ∃ result w',
      (v.overwrite m.host path key value).run w = ((result, v.holding key value), w') ∧
        Setting path key value v w result w' := by
  have hreplacing := replaceFile_run h htemporary (render (v.holding key value).entries) w
  simp only [overwrite, run_bind_state]
  generalize ((replaceFile m.host path (render (v.holding key value).entries)).run w).1 = r at *
  generalize ((replaceFile m.host path (render (v.holding key value).entries)).run w).2 = w' at *
  cases hreplacing with
  | done hfile hlt hsucceeded => exact ⟨_, w', rfl, .written hfile hlt hsucceeded⟩
  | failed e hsame hlt hfailed => exact ⟨_, w', rfl, .failed e hsame hlt hfailed⟩

/-- What others do before is no part of it. -/
theorem Setting.of_turn (h : m.Spares path) {key value : String} {v : Vault} {w w' : World}
    {result : Except StoreError Unit} (hsetting : Setting path key value v (m.turn w) result w') :
    Setting path key value v w result w' := by
  have hturn := h.turn w
  cases hsetting with
  | kept there file same attempts failures =>
    exact .kept there (hturn ▸ file) (same.trans hturn) attempts failures
  | written file attempts failures => exact .written file attempts failures
  | failed e same attempts failures => exact .failed e (same.trans hturn) attempts failures

/-- **Keeping a value.**  In memory it is kept in any case. -/
theorem set_run (h : m.Spares path) (htemporary : m.Spares (temporary path)) {v : Vault}
    (hpath : v.path = some path) (key value : String) (w : World) :
    ∃ result w', (v.set m.host key value).run w = ((result, v.holding key value), w') ∧
      Setting path key value v w result w' := by
  rw [set_eq m.host hpath]
  split
  · next hthere =>
    simp only [run_bind_state, Machine.pathExists_run]
    cases hfile : ((m.turn w).disk.node? path).isSome with
    | true =>
      refine ⟨.ok (), m.turn w, ?_, .of_turn h (.kept hthere hfile rfl rfl rfl)⟩
      rw [holding_of_get? hthere]
      rfl
    | false =>
      obtain ⟨result, w', hrun, hsetting⟩ := overwrite_run h htemporary v key value (m.turn w)
      exact ⟨result, w', hrun, hsetting.of_turn h⟩
  · exact overwrite_run h htemporary v key value w

end Vault

end GrammarLint
