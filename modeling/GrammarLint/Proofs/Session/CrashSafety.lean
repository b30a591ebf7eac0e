/-
  GrammarLint/Proofs/Session/CrashSafety.lean
  ===========================================
  **A state file is whole at any moment** — whatever fails, and wherever the session is
  killed.

  The new contents are written beside the state file, so a write that is cut off leaves
  something there and not in the state file, and only a renaming changes that.  A call
  therefore leaves the file alone or puts all that is in memory into it, also a call in
  which the session is killed (`Whole`, `set_called`).  Over all calls, the file is that of
  the last one whose renaming was carried out (`crash_safe`); what earlier calls left
  beside it does not matter.
-/
import GrammarLint.Proofs.Sandbox.Mortal
import GrammarLint.Proofs.Session.StateFile

namespace GrammarLint.Vault

open Sandbox Sandbox.Mortal

variable {m : Machine} {path : String}

/-! ### One call -/

/-- What can have become of a state file that is to hold some text: it is as it was, or it
    was renamed to and holds all of it. -/
inductive Whole (path text : String) (t t' : Trace) : Prop
  | same (node : t'.world.disk.node? path = t.world.disk.node? path)
    (renamings : t'.renamings = t.renamings)
  | renamed (file : t'.world.disk.node? path = some (.file text.toUTF8))
    (renamings : t'.renamings = t.renamings + 1)

/-- What leaves the file alone before is no part of it. -/
theorem Whole.of_same {text : String} {t t' : Trace} {w : World}
    (node : w.disk.node? path = t.world.disk.node? path)
    (h : Whole path text ⟨w, t.renamings⟩ t') : Whole path text t t' := by
  cases h with
  | same node' renamings => exact .same (node'.trans node) renamings
  | renamed file renamings => exact .renamed file renamings

theorem Whole.renamings_le {text : String} {t t' : Trace} (h : Whole path text t t') :
    t.renamings ≤ t'.renamings := by
  cases h with
  | same node renamings => exact Nat.le_of_eq renamings.symm
  | renamed file renamings => exact renamings ▸ Nat.le_succ t.renamings

/-- What comes of an attempt to replace the file.  An answer that it was replaced is true. -/
structure Attempted (path text : String) (t : Trace) (r : Option (Except FileError Unit) × Trace) :
    Prop where
  whole : Whole path text t r.2
  done : r.1 = some (.ok ()) → r.2.world.disk.node? path = some (.file text.toUTF8)

theorem rename_attempted (h : m.Spares path) (htemporary : m.Spares (temporary path)) (last : Nat)
    {text : String} {t : Trace}
    (hwritten : t.world.disk.node? (temporary path) = some (.file text.toUTF8)) :
    Attempted path text t (((m.mortal last).rename (temporary path) path).after t) := by
  rw [Machine.after_rename]
  cases hresult : ((m.host.rename (temporary path) path).run t.world).1 with
  | error e =>
    refine ⟨.same ?_ rfl, ?_⟩
    · rw [Machine.node?_of_rename_error hresult]
      exact h.turn t.world
    · intro hdone
      dsimp only at hdone
      split at hdone <;> cases hdone
  | ok _ =>
    have hfile : ((m.host.rename (temporary path) path).run t.world).2.disk.node? path =
        some (.file text.toUTF8) := by
      rw [Machine.node?_of_rename hresult, htemporary.turn]
      exact hwritten
    exact ⟨.renamed hfile rfl, fun _ => hfile⟩

/-- Replacing the file, as far as the session gets with it. -/
theorem replaceFile_attempted (h : m.Spares path) (htemporary : m.Spares (temporary path))
    (last : Nat) (text : String) (t : Trace) :
    Attempted path text t ((replaceFile (m.mortal last) path text).after t) := by
  obtain ⟨result, w', hrun, hcourse, hwritten, -⟩ := m.writeText_run (temporary path) text t.world
  have hsame : w'.disk.node? path = t.world.disk.node? path := hcourse.nodes path h
    fun hmem => destination_temporary_ne path (List.mem_singleton.mp hmem).symm
  have hwrite := m.after_writeText last t (temporary path) text
  rw [hrun] at hwrite
  unfold replaceFile
  by_cases halive : t.world.moment < last
  · rw [if_pos halive] at hwrite
    rw [after_bind_of_some hwrite]
    cases result with
    | error e => exact ⟨.same hsame rfl, nofun⟩
    | ok _ =>
      obtain ⟨hwhole, hdone⟩ := rename_attempted h htemporary last (t := ⟨w', t.renamings⟩)
        (hwritten rfl)
      exact ⟨.of_same hsame hwhole, hdone⟩
  · rw [if_neg halive] at hwrite
    rw [after_bind_of_none hwrite]
    exact ⟨.same hsame rfl, nofun⟩

/-- What comes of a call.  If the session gets to its end, the value is in memory, and if the
    answer is that all is well, a file that was in step with the memory is so again. -/
structure Called (path key value : String) (v : Vault) (t : Trace)
    (answer : Option (Except StoreError Unit × Vault)) (t' : Trace) : Prop where
  whole : Whole path (render (v.holding key value).entries) t t'
  memory : ∀ result ∈ answer, result.2 = v.holding key value
  file : ∀ result ∈ answer, result.1 = .ok () → stored t.world.disk path = some v.entries →
    stored t'.world.disk path = some (v.holding key value).entries

section

variable {key value : String} {v : Vault} {t t' : Trace}

theorem Called.killed (h : Whole path (render (v.holding key value).entries) t t') :
    Called path key value v t none t' := by
  refine ⟨h, ?_, ?_⟩
  · intro result hresult
    cases hresult
  · intro result hresult
    cases hresult

theorem Called.answered (h : Whole path (render (v.holding key value).entries) t t')
    {answer : Except StoreError Unit}
    (hfile : answer = .ok () → stored t.world.disk path = some v.entries →
      stored t'.world.disk path = some (v.holding key value).entries) :
    Called path key value v t (some (answer, v.holding key value)) t' := by
  refine ⟨h, ?_, ?_⟩
  · intro result hresult
    cases hresult
    rfl
  · intro result hresult
    cases hresult
    exact hfile

end

theorem overwrite_called (h : m.Spares path) (htemporary : m.Spares (temporary path)) (last : Nat)
    (v : Vault) (key value : String) (t : Trace) :
    ∃ answer t', (v.overwrite (m.mortal last) path key value).after t = (answer, t') ∧
      Called path key value v t answer t' := by
  have hattempted := replaceFile_attempted h htemporary last
    (render (v.holding key value).entries) t
  obtain ⟨⟨replaced, t'⟩, hreplace⟩ :
      ∃ r, (replaceFile (m.mortal last) path (render (v.holding key value).entries)).after t = r :=
    ⟨_, rfl⟩
  rw [hreplace] at hattempted
  obtain ⟨hwhole, hdone⟩ := hattempted
  unfold overwrite
  cases replaced with
  | none => exact ⟨none, t', after_bind_of_none hreplace _, .killed hwhole⟩
  | some result =>
    rw [after_bind_of_some hreplace]
    cases result with
    | ok _ =>
      exact ⟨_, t', after_pure _ _, .answered hwhole fun _ _ => stored_of_written (hdone rfl)⟩
    | error e => exact ⟨_, t', after_pure _ _, .answered hwhole nofun⟩

/-- **Keeping a value**, as far as the session gets with it. -/
theorem set_called (h : m.Spares path) (htemporary : m.Spares (temporary path)) (last : Nat)
    {v : Vault} (hpath : v.path = some path) (key value : String) (t : Trace) :
    ∃ answer t', (v.set (m.mortal last) key value).after t = (answer, t') ∧
      Called path key value v t answer t' := by
  rw [set_eq (m.mortal last) hpath]
  split
  · next hthere =>
    have hturn := h.turn t.world
    have hwhole : Whole path (render (v.holding key value).entries) t
        ⟨m.turn t.world, t.renamings⟩ := .same hturn rfl
    have hexists := m.after_pathExists last t path
    by_cases halive : t.world.moment < last
    · rw [if_pos halive] at hexists
      rw [after_bind_of_some hexists]
      split
      · have hsame : v.holding key value = v := holding_of_get? hthere
        have hkept : Called path key value v t (some (.ok (), v.holding key value))
            ⟨m.turn t.world, t.renamings⟩ := by
          refine .answered hwhole fun _ hstored => ?_
          rw [hsame, ← hstored]
          exact stored_of_node? hturn
        rw [hsame] at hkept
        exact ⟨_, _, after_pure _ _, hkept⟩
      · obtain ⟨answer, t', hrun, hwhole, hmemory, hfile⟩ :=
          overwrite_called h htemporary last v key value ⟨m.turn t.world, t.renamings⟩
        refine ⟨answer, t', hrun, .of_same hturn hwhole, hmemory, ?_⟩
        intro result hresult hok hstored
        exact hfile result hresult hok ((stored_of_node? hturn).trans hstored)
    · rw [if_neg halive] at hexists
      exact ⟨none, _, after_bind_of_none hexists _, .killed hwhole⟩
  · exact overwrite_called h htemporary last v key value t

/-! ### All calls -/

/-- **The last call whose renaming was carried out** has number `i` out of `n` calls, and 0
    stands for none: from then on the number of renamings is the same.  Before that call
    the session was not killed. -/
structure LastRenaming {α : Type} (after : Nat → Option α × Trace) (n i : Nat) : Prop where
  le : i ≤ n
  before : ∀ j < i, (after j).1.isSome ∧ (after j).2.renamings < (after n).2.renamings
  since : ∀ j, i ≤ j → j ≤ n → (after j).2.renamings = (after n).2.renamings

/-- What the state file is after `n` calls, if it was `node` before them: what it was, or
    the document of the entries as of the last call whose renaming was carried out. -/
def FileAfter {α : Type} (path : String) (node : Option Node) (entries : Nat → Entries)
    (after : Nat → Option α × Trace) (n : Nat) : Prop :=
  ∃ i, LastRenaming after n i ∧
    (after n).2.world.disk.node? path =
      if i = 0 then node else some (.file (render (entries i)).toUTF8)

section

variable {α : Type} {after : Nat → Option α × Trace} {n i : Nat}

theorem LastRenaming.zero (h : ∀ j ≤ n, (after j).2.renamings = (after n).2.renamings) :
    LastRenaming after n 0 := by
  refine ⟨Nat.zero_le n, ?_, fun j _ hj => h j hj⟩
  intro j hj
  exact absurd hj (Nat.not_lt_zero j)

/-- A call in front of others, of which one at least renames something. -/
theorem LastRenaming.succ (h : LastRenaming (fun j => after (j + 1)) n i)
    (halive : (after 0).1.isSome) (hfirst : (after 0).2.renamings < (after (n + 1)).2.renamings) :
    LastRenaming after (n + 1) (i + 1) := by
  refine ⟨Nat.succ_le_succ h.le, ?_, ?_⟩
  · intro j hj
    cases j with
    | zero => exact ⟨halive, hfirst⟩
    | succ j => exact h.before j (Nat.lt_of_succ_lt_succ hj)
  · intro j hi hj
    cases j with
    | zero => exact absurd hi (Nat.not_succ_le_zero i)
    | succ j => exact h.since j (Nat.le_of_succ_le_succ hi) (Nat.le_of_succ_le_succ hj)

/-- **A call in front of others** leaves the file to them, or has replaced it if none of
    them does. -/
theorem FileAfter.cons {entries : Nat → Entries} {t t' : Trace}
    (hwhole : Whole path (render (entries 1)) t t') (halive : (after 0).1.isSome)
    (hzero : (after 0).2 = t) (hone : (after 1).2 = t')
    (h : FileAfter path (t'.world.disk.node? path) (fun j => entries (j + 1))
      (fun j => after (j + 1)) n) :
    FileAfter path (t.world.disk.node? path) entries after (n + 1) := by
  obtain ⟨i, hlast, hnode⟩ := h
  cases i with
  | zero =>
    have hsince : (after 1).2.renamings = (after (n + 1)).2.renamings :=
      hlast.since 0 (Nat.le_refl 0) (Nat.zero_le n)
    rw [hone] at hsince
    cases hwhole with
    | same node renamings =>
      refine ⟨0, .zero fun j hj => ?_, hnode.trans node⟩
      cases j with
      | zero => rw [hzero, ← hsince, renamings]
      | succ j => exact hlast.since j (Nat.zero_le j) (Nat.le_of_succ_le_succ hj)
    | renamed file renamings =>
      refine ⟨1, hlast.succ halive ?_, hnode.trans file⟩
      rw [hzero, ← hsince, renamings]
      exact Nat.lt_succ_self t.renamings
  | succ i =>
    refine ⟨i + 2, hlast.succ halive ?_, hnode⟩
    have hbefore : (after 1).2.renamings < (after (n + 1)).2.renamings :=
      (hlast.before 0 (Nat.succ_pos i)).2
    rw [hzero]
    rw [hone] at hbefore
    exact Nat.lt_of_le_of_lt hwhole.renamings_le hbefore

end

section

variable {host : Host Mortal} {v v' : Vault} {key value : String} {t t' : Trace}
  {answer : Except StoreError Unit}

theorem setAll_cons_of_none (h : (v.set host key value).after t = (none, t'))
    (calls : List (String × String)) :
    (v.setAll host ((key, value) :: calls)).after t = (none, t') :=
  after_bind_of_none h _

theorem setAll_cons_of_some (h : (v.set host key value).after t = (some (answer, v'), t'))
    (calls : List (String × String)) :
    (v.setAll host ((key, value) :: calls)).after t =
      (((v'.setAll host calls).after t').1.map fun rest => (answer :: rest.1, rest.2),
        ((v'.setAll host calls).after t').2) := by
  obtain ⟨⟨rest, t''⟩, hrest⟩ : ∃ r, (v'.setAll host calls).after t' = r := ⟨_, rfl⟩
  rw [setAll, after_bind_of_some h, hrest]
  cases rest with
  | none => exact after_bind_of_none hrest _
  | some rest => exact after_bind_of_some hrest _

end

/-- **The file over all calls.** -/
theorem setAll_whole (h : m.Spares path) (htemporary : m.Spares (temporary path)) (last : Nat)
    (calls : List (String × String)) {v : Vault} (hpath : v.path = some path) (t : Trace) :
    FileAfter path (t.world.disk.node? path) (fun j => v.entries.insertAll (calls.take j))
      (fun j => (v.setAll (m.mortal last) (calls.take j)).after t) calls.length := by
  induction calls generalizing v t with
  | nil =>
    refine ⟨0, .zero fun j hj => ?_, rfl⟩
    rw [Nat.le_zero.mp hj]
    rfl
  | cons call calls ih =>
    obtain ⟨key, value⟩ := call
    obtain ⟨answer, t', hset, hwhole, hmemory, -⟩ := set_called h htemporary last hpath key value t
    cases answer with
    | none =>
      -- Nothing follows, so the file stays as the first call has left it.
      have hdead : ∀ j, (v.setAll (m.mortal last) (((key, value) :: calls).take (j + 1))).after t =
          (none, t') := fun j => setAll_cons_of_none hset (calls.take j)
      refine .cons hwhole rfl rfl (congrArg Prod.snd (hdead 0)) ⟨0, .zero fun j _ => ?_, ?_⟩
      · rw [hdead, hdead]
      · beta_reduce
        rw [hdead]
        rfl
    | some result =>
      obtain ⟨answer, v'⟩ := result
      obtain rfl : v' = v.holding key value := hmemory (answer, v') rfl
      have halive : ∀ j, (v.setAll (m.mortal last) (((key, value) :: calls).take (j + 1))).after t =
          _ := fun j => setAll_cons_of_some hset (calls.take j)
      obtain ⟨i, hlast, hnode⟩ := ih (v := v.holding key value) hpath t'
      refine .cons hwhole rfl rfl (congrArg Prod.snd (halive 0)) ⟨i, ?_, ?_⟩
      · refine ⟨hlast.le, ?_, ?_⟩
        · intro j hj
          rw [halive, halive, Option.isSome_map]
          exact hlast.before j hj
        · intro j hi hj
          rw [halive, halive]
          exact hlast.since j hi hj
      · beta_reduce
        rw [halive]
        exact hnode

/-- What there is after all calls, as long as the session was not killed: their values are in
    memory, and in the file if no call has failed. -/
theorem setAll_alive (h : m.Spares path) (htemporary : m.Spares (temporary path)) (last : Nat)
    (calls : List (String × String)) {v : Vault} (hpath : v.path = some path) (t : Trace) :
    ∀ r ∈ ((v.setAll (m.mortal last) calls).after t).1,
      r.2.entries = v.entries.insertAll calls ∧
      ((∀ answer ∈ r.1, answer = .ok ()) → stored t.world.disk path = some v.entries →
        stored ((v.setAll (m.mortal last) calls).after t).2.world.disk path =
          some (v.entries.insertAll calls)) := by
  induction calls generalizing v t with
  | nil =>
    intro r hr
    cases hr
    exact ⟨rfl, fun _ hstored => hstored⟩
  | cons call calls ih =>
    obtain ⟨key, value⟩ := call
    obtain ⟨answer, t', hset, -, hmemory, hfile⟩ :=
      set_called h htemporary last hpath key value t
    intro r hr
    cases answer with
    | none =>
      rw [setAll_cons_of_none hset] at hr
      cases hr
    | some result =>
      obtain ⟨answer, v'⟩ := result
      obtain rfl : v' = v.holding key value := hmemory (answer, v') rfl
      rw [setAll_cons_of_some hset] at hr ⊢
      obtain ⟨rest, hrest, rfl⟩ := Option.map_eq_some_iff.mp hr
      obtain ⟨hentries, hstored'⟩ := ih (v := v.holding key value) hpath t' rest hrest
      refine ⟨hentries, ?_⟩
      intro hanswers hstored
      obtain ⟨hanswer, hanswers⟩ := List.forall_mem_cons.mp hanswers
      exact hstored' hanswers (hfile _ rfl hanswer hstored)

/-- **A crash leaves a whole file.**  Let a state file be opened and values be kept, whatever
    becomes of the writing and renaming, and let the session be killed in any operation.
    The file is exactly what it was when it was opened, or it is the document of all
    entries that were in memory as of the last call whose renaming was carried out.
    Whoever opens it next reads these entries, and no others; they are those of all calls
    if none has failed and the session was not killed. -/
theorem crash_safe (h : m.Spares path) (htemporary : m.Spares (temporary path)) {v : Vault}
    {w w₀ : World} (hopen : (openFile m.host path).run w = (.ok v, w₀)) (last : Nat)
    (calls : List (String × String)) :
    let after j := (v.setAll (m.mortal last) (calls.take j)).after ⟨w₀, 0⟩
    (∀ j, ∀ r ∈ (after j).1, r.2.entries = v.entries.insertAll (calls.take j) ∧
      ((∀ answer ∈ r.1, answer = .ok ()) →
        OpensAs path ((after j).2.world.disk.node? path) r.2.entries)) ∧
    ∃ i, LastRenaming after calls.length i ∧
      (after calls.length).2.world.disk.node? path =
        (if i = 0 then w.disk.node? path
         else some (.file (render (v.entries.insertAll (calls.take i))).toUTF8)) ∧
      OpensAs path ((after calls.length).2.world.disk.node? path)
        (v.entries.insertAll (calls.take i)) := by
  intro after
  have hstep := (Kept.opened hopen).inStep h htemporary
  have hsame := (goes_openFile path w).nodes path h List.not_mem_nil
  rw [hopen] at hsame
  constructor
  · intro j r hr
    obtain ⟨hentries, hfile⟩ :=
      setAll_alive h htemporary last (calls.take j) hstep.path_eq ⟨w₀, 0⟩ r hr
    refine ⟨hentries, fun hanswers => ?_⟩
    rw [hentries]
    exact opensAs_of_stored (hfile hanswers hstep.file)
  · obtain ⟨i, hlast, hnode⟩ := setAll_whole h htemporary last calls hstep.path_eq ⟨w₀, 0⟩
    refine ⟨i, hlast, ?_, opensAs_of_stored ?_⟩
    · rw [hnode, hsame]
    · by_cases hi : i = 0
      · subst hi
        exact (stored_of_node? hnode).trans hstep.file
      · rw [if_neg hi] at hnode
        exact stored_of_written hnode

/-- **A write that is cut off.**  The first value is in the file, the second one is not, and
    there is a part of a document beside it. -/
theorem crash_safe_cut_off :
    let m := Machine.solitary fun n _ => if n = 2 then .cut 3 else .done
    let w₀ := ((openFile m.host "state").run (.ofDisk .empty)).2
    let calls := [("a", "1"), ("b", "2"), ("c", "3")]
    ∃ answers t, ((⟨some "state", .empty⟩ : Vault).setAll (m.mortal 3) calls).after ⟨w₀, 0⟩ =
        (answers, t) ∧
      answers.isNone ∧ t.world.disk.text? "state.tmp" = some "\x7b\n " ∧
      t.world.disk.node? "state" = some (.file (render (.ofList [("a", "1")])).toUTF8) ∧
      OpensAs "state" (t.world.disk.node? "state") (.ofList [("a", "1")]) := by
  intro m w₀ calls
  have hopen : (openFile m.host "state").run (.ofDisk .empty) =
      (.ok ⟨some "state", .empty⟩, w₀) := rfl
  have hspares : ∀ path, m.Spares path := Machine.solitary_spares _
  obtain ⟨-, i, hlast, hfile, hopens⟩ :=
    crash_safe (hspares "state") (hspares (temporary "state")) hopen 3 calls
  let after (j : Nat) :=
    ((⟨some "state", .empty⟩ : Vault).setAll (m.mortal 3) (calls.take j)).after ⟨w₀, 0⟩
  have hcounts : (after 0).2.renamings = 0 ∧ (after 1).2.renamings = 1 ∧
      (after 3).2.renamings = 1 := by decide +kernel
  have hnumber : LastRenaming after 3 i := hlast
  -- The first call renames the file, and nothing does any more.
  obtain rfl : i = 1 := by
    rcases Nat.lt_trichotomy i 1 with hlt | heq | hgt
    · have hnone := hnumber.since 0 (Nat.le_of_lt_succ hlt) (Nat.zero_le 3)
      omega
    · exact heq
    · have hlater := (hnumber.before 1 hgt).2
      omega
  beta_reduce at hfile hopens
  rw [List.take_length] at hfile hopens
  have hkilled : (((⟨some "state", .empty⟩ : Vault).setAll (m.mortal 3) calls).after
      ⟨w₀, 0⟩).1.isNone := by decide +kernel
  have hbeside : (((⟨some "state", .empty⟩ : Vault).setAll (m.mortal 3) calls).after
      ⟨w₀, 0⟩).2.world.disk.text? "state.tmp" = some "\x7b\n " := by decide +kernel
  generalize ((⟨some "state", .empty⟩ : Vault).setAll (m.mortal 3) calls).after ⟨w₀, 0⟩ = r at *
  exact ⟨r.1, r.2, rfl, hkilled, hbeside, hfile, hopens⟩

end GrammarLint.Vault
