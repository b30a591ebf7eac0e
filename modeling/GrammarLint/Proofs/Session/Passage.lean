/-
  GrammarLint/Proofs/Session/Passage.lean
  =======================================
  **What a part of a session comes to** — the vault and the machine before it and after.

  A passage is a course of the machine (what is touched and which programs are run) that
  in addition keeps the file of the vault in step with the vault, as long as no attempt
  to write fails and nobody else writes that file.  `Carries` says this of a computation
  of a session from every state, together with what becomes of the vault; there is one
  lemma for each service of the pipeline, and those for a cycle are put together from
  them in the order of the cycle.
-/
import GrammarLint.Proofs.Pipeline.Calls
import GrammarLint.Proofs.Session.Vault
import GrammarLint.Session.Watch

namespace GrammarLint

open Sandbox

/-! ### Vaults and their files -/

namespace Vault

/-- Nobody but the session touches the file of a vault and the one that takes its place. -/
def Spared (m : Machine) (v : Vault) : Prop :=
  ∀ path, v.path = some path → m.Spares path ∧ m.Spares (temporary path)

/-- The file of a vault opens as what the vault holds. -/
def InFile (v : Vault) (d : Disk) : Prop :=
  ∀ path, v.path = some path → stored d path = some v.entries

/-- The places that a vault writes to. -/
def touched (v : Vault) : List Place :=
  match v.path with
  | none => []
  | some path => [Disk.destination (temporary path), Disk.destination path]

theorem spared_of_path {m : Machine} {v : Vault} {path : String} (h : v.path = some path)
    (hspares : m.Spares path) (htemporary : m.Spares (temporary path)) : v.Spared m := by
  intro other hother
  rw [h] at hother
  cases hother
  exact ⟨hspares, htemporary⟩

theorem touched_of_path {v : Vault} {path : String} (h : v.path = some path) :
    v.touched = [Disk.destination (temporary path), Disk.destination path] := by
  rw [touched, h]

theorem touched_of_path_eq {v v' : Vault} (h : v'.path = v.path) : v'.touched = v.touched := by
  rw [touched, touched, h]

variable {m : Machine}

theorem goes_replaceFile (path text : String) :
    m.Goes [Disk.destination (temporary path), Disk.destination path] []
      (replaceFile m.host path text) := by
  have hwrite : m.Goes [Disk.destination (temporary path), Disk.destination path] []
      (m.host.writeText (temporary path) text) :=
    (Machine.goes_writeFile (temporary path) text.toUTF8).mono (by simp)
  refine hwrite.bind fun result => ?_
  cases result with
  | error e => exact Machine.goes_pure _ _
  | ok _ => exact Machine.goes_rename (temporary path) path

theorem goes_overwrite (v : Vault) (path key value : String) :
    m.Goes [Disk.destination (temporary path), Disk.destination path] []
      (v.overwrite m.host path key value) := by
  refine (goes_replaceFile path _).bind fun result => ?_
  cases result <;> exact Machine.goes_pure _ _

theorem goes_set (v : Vault) (key value : String) :
    m.Goes v.touched [] (v.set m.host key value) := by
  cases hpath : v.path with
  | none =>
    simp only [set, hpath]
    exact Machine.goes_pure _ _
  | some path =>
    rw [set_eq m.host hpath, touched_of_path hpath]
    split
    · have hexists := (Machine.goes_pathExists (m := m) path).mono
        (List.nil_subset [Disk.destination (temporary path), Disk.destination path])
      refine hexists.bind fun there => ?_
      cases there with
      | true => exact Machine.goes_pure _ _
      | false => exact goes_overwrite v path key value
    · exact goes_overwrite v path key value

theorem overwrite_holding (v : Vault) (path key value : String) (w : World) :
    ((v.overwrite m.host path key value).run w).1.2 = v.holding key value := by
  simp only [overwrite, run_bind_state]
  split <;> rfl

/-- **A value is kept in memory** whatever becomes of the file. -/
theorem set_holding (v : Vault) (key value : String) (w : World) :
    ((v.set m.host key value).run w).1.2 = v.holding key value := by
  cases hpath : v.path with
  | none =>
    obtain ⟨_, entries⟩ := v
    obtain rfl := hpath
    rfl
  | some path =>
    rw [set_eq m.host hpath]
    split
    · next hthere =>
      simp only [run_bind_state]
      split
      · exact (holding_of_get? hthere).symm
      · exact overwrite_holding v path key value _
    · exact overwrite_holding v path key value w

/-- **A file that is in step stays in step** as long as nothing fails. -/
theorem inFile_set {v : Vault} (hspared : v.Spared m) {w : World} (h : v.InFile w.disk)
    (key value : String)
    (hfailures : ((v.set m.host key value).run w).2.failures = w.failures) :
    (v.holding key value).InFile ((v.set m.host key value).run w).2.disk := by
  intro path hpath
  obtain ⟨hspares, htemporary⟩ := hspared path hpath
  obtain ⟨result, w', hrun, hsetting⟩ :=
    set_run (v := v) hspares htemporary hpath key value w
  rw [hrun] at hfailures ⊢
  cases hsetting with
  | kept there file same attempts failures =>
    rw [holding_of_get? there, stored_of_node? same]
    exact h path hpath
  | written file attempts failures => exact stored_of_written file
  -- A failure would have been counted.
  | failed e same attempts failures => exact absurd (failures ▸ hfailures) (Nat.succ_ne_self _)

end Vault

/-! ### Passages -/

/-- **A part of a session**, from one vault and one state of the machine to others. -/
structure Passage (m : Machine) (touched : List Place) (new : List (Program × String))
    (v v' : Vault) (w w' : World) : Prop extends m.Course touched new w w' where
  path : v'.path = v.path
  inFile : v.Spared m → v.InFile w.disk → w'.failures = w.failures → v'.InFile w'.disk

namespace Passage

variable {m : Machine} {touched : List Place} {new later : List (Program × String)}
  {v v' v'' : Vault} {w w' w'' : World}

/-- What only the machine does, away from the file of the vault. -/
theorem of_course (h : m.Course touched new w w')
    (haway : ∀ path, v.path = some path → Disk.destination path ∉ touched) :
    Passage m touched new v v w w' := by
  refine ⟨h, rfl, fun hspared hfile _ path hpath => ?_⟩
  rw [Vault.stored_of_node? (h.nodes path (hspared path hpath).1 (haway path hpath))]
  exact hfile path hpath

/-- Keeping a value. -/
theorem set (v : Vault) (key value : String) (w : World) :
    Passage m v.touched [] v (v.holding key value) w ((v.set m.host key value).run w).2 :=
  ⟨v.goes_set key value w, rfl, fun hspared hfile => Vault.inFile_set hspared hfile key value⟩

theorem mono {touched' : List Place} (h : Passage m touched new v v' w w')
    (hsub : touched ⊆ touched') : Passage m touched' new v v' w w' :=
  ⟨h.toCourse.mono hsub, h.path, h.inFile⟩

/-- What touches nothing. -/
theorem quiet (v : Vault) (h : m.Course [] new w w') : Passage m v.touched new v v w w' :=
  (of_course h fun _ _ => List.not_mem_nil).mono (List.nil_subset v.touched)

theorem spared (h : Passage m touched new v v' w w') (hspared : v.Spared m) : v'.Spared m := by
  intro path hpath
  rw [h.path] at hpath
  exact hspared path hpath

theorem trans (h : Passage m touched new v v' w w') (h' : Passage m touched later v' v'' w' w'') :
    Passage m touched (new ++ later) v v'' w w'' := by
  refine ⟨h.toCourse.trans h'.toCourse, h'.path.trans h.path, fun hspared hfile hfailures => ?_⟩
  have hle := h.failures
  have hle' := h'.failures
  exact h'.inFile (h.spared hspared) (h.inFile hspared hfile (by omega)) (by omega)

/-- The file is in step after a passage if it was before, as long as no attempt has failed
    since there were so many failures. -/
theorem inFile_since (h : Passage m touched new v v' w w') (hspared : v.Spared m) {n : Nat}
    (hn : n ≤ w.failures) (hfile : w.failures = n → v.InFile w.disk) (hn' : w'.failures = n) :
    v'.InFile w'.disk := by
  have hle := h.failures
  exact h.inFile hspared (hfile (by omega)) (by omega)

/-- After the last program nothing more is run. -/
theorem trans_quiet (h : Passage m touched new v v' w w')
    (h' : Passage m touched [] v' v'' w' w'') : Passage m touched new v v'' w w'' := by
  have hall := h.trans h'
  rwa [List.append_nil] at hall

end Passage

/-! ### Computations of a session -/

/-- A computation that is a passage from every state, and what becomes of the vault. -/
def Carries (m : Machine) (new : List (Program × String)) (change : Vault → Vault) {α : Type}
    (x : StateT Vault (StateM World) α) : Prop :=
  ∀ v w, ((x.run v).run w).1.2 = change v ∧
    Passage m v.touched new v (change v) w ((x.run v).run w).2

namespace Carries

variable {m : Machine} {new later : List (Program × String)} {change next : Vault → Vault}
  {α β : Type}

/-- What only the machine does, without touching anything. -/
theorem lift {x : StateM World α} (h : m.Goes [] new x) : Carries m new id (StateT.lift x) := by
  intro v w
  exact ⟨rfl, .quiet v (h w)⟩

theorem pure (a : α) : Carries m [] id (Pure.pure a) :=
  lift (Machine.goes_pure [] a)

theorem bind {x : StateT Vault (StateM World) α} {f : α → StateT Vault (StateM World) β}
    (hx : Carries m new change x) (hf : ∀ a, Carries m later next (f a)) :
    Carries m (new ++ later) (fun v => next (change v)) (x >>= f) := by
  intro v w
  rw [run_bind_states]
  obtain ⟨hvault, hpassage⟩ := hx v w
  obtain ⟨hvault', hpassage'⟩ := hf ((x.run v).run w).1.1 (change v) ((x.run v).run w).2
  rw [Vault.touched_of_path_eq hpassage.path] at hpassage'
  rw [hvault]
  exact ⟨hvault', hpassage.trans hpassage'⟩

theorem bind_idle {x : StateT Vault (StateM World) α} {f : α → StateT Vault (StateM World) β}
    (hx : Carries m new change x) (hf : ∀ a, Carries m [] id (f a)) :
    Carries m new change (x >>= f) := by
  have h := hx.bind hf
  rw [List.append_nil] at h
  exact h

/-- What a computation comes to from a state, with its answer. -/
theorem run_eq {x : StateT Vault (StateM World) α} (h : Carries m new change x) (v : Vault)
    (w : World) :
    ∃ a w', (x.run v).run w = ((a, change v), w') ∧
      Passage m v.touched new v (change v) w w' := by
  obtain ⟨hvault, hpassage⟩ := h v w
  refine ⟨((x.run v).run w).1.1, ((x.run v).run w).2, ?_, hpassage⟩
  rw [← hvault]
  rfl

end Carries

/-! ### The operations of a session -/

/-- A session on a machine. -/
def Sandbox.Machine.session (m : Machine) (filter : Log.Filter) : Session (StateM World) :=
  ⟨m.host, filter⟩

namespace Session

variable (m : Machine) (filter : Log.Filter)

theorem goes_note (r : Log.Record) : m.Goes [] [] ((m.session filter).note r) := by
  unfold note
  split
  · exact Machine.goes_write .err r.line
  · exact Machine.goes_pure _ _

theorem goes_writeAll (chunks : List Chunk) : m.Goes [] [] (m.host.writeAll chunks) := by
  induction chunks with
  | nil => exact Machine.goes_pure _ _
  | cons chunk chunks ih => exact (Machine.goes_write chunk.stream chunk.text).bind fun _ => ih

theorem goes_announce (format : Format) (job : Job) (c : Controller) (outcome : Outcome) :
    m.Goes [] [] ((m.session filter).announce format job c outcome) :=
  goes_writeAll m _

theorem goes_settings (job : Job) : m.Goes [] [] ((m.session filter).settings job) := by
  unfold settings
  split
  · exact Machine.goes_pure _ _
  · next path _ =>
    refine (Machine.goes_readText path).bind fun result => ?_
    cases result with
    | error e => exact Machine.goes_pure _ _
    | ok text =>
      dsimp only
      cases Settings.load text <;> exact Machine.goes_pure _ _

theorem goes_openVault (state : Option String) :
    m.Goes [] [] ((m.session filter).openVault state) := by
  cases state with
  | none => exact Machine.goes_pure _ _
  | some path => exact (Vault.goes_openFile path).bind fun _ => Machine.goes_pure _ _

end Session

/-! ### The cycles of a session -/

/-- The programs that a cycle on these texts runs, with what they are sent. -/
def Program.requestsFor (program : Program) (texts : String × String) : List (Program × String) :=
  (Controller.callsFor texts).map fun call => (program, request call.1 call.2)

/-- The texts of a pipeline. -/
def Controller.texts (c : Controller) (stage : Stage) : String := (c.buffer stage).text

/-- The vault after a cycle: both texts are kept. -/
def Controller.kept (c : Controller) (v : Vault) : Vault :=
  (v.holding c.settings.grammarKey c.grammar.text).holding c.settings.codeKey c.code.text

theorem Controller.kept_cycled (c : Controller)
    (answer : Option (Except AnalysisError AnalysisResult)) :
    (c.cycled answer).2.kept = c.kept := by
  funext v
  simp only [kept, cycled_settings, cycled_grammar, cycled_code]

/-- The kept texts are those of the pipeline. -/
theorem Controller.get?_kept (c : Controller) (v : Vault)
    (hkeys : c.settings.grammarKey ≠ c.settings.codeKey) (stage : Stage) :
    (c.kept v).get? (c.settings.key stage) = some (c.texts stage) := by
  cases stage with
  | grammar =>
    exact (Vault.get?_holding_of_ne _ _ hkeys).trans (Vault.get?_holding_self _ _ _)
  | code => exact Vault.get?_holding_self _ _ _

namespace Session

variable (m : Machine) (filter : Log.Filter) (program : Program)

theorem carries_log (event : Event) :
    Carries m [] id (((m.session filter).services program).log event) :=
  .lift (goes_note m filter event.record)

theorem carries_persist (key text : String) :
    Carries m [] (·.holding key text)
      (Controller.persist ((m.session filter).services program) key text) := by
  have hset : Carries m [] (·.holding key text)
      (((m.session filter).services program).persist key text) := by
    intro v w
    exact ⟨v.set_holding key text w, .set v key text w⟩
  apply hset.bind_idle
  intro result
  cases result with
  | ok _ => exact .pure _
  | error e => exact carries_log m filter program _

/-- **The analyzer is run with one request**, unless there is no grammar. -/
theorem carries_consult (snapshot : Snapshot) :
    Carries m (program.requestsFor (snapshot.grammar, snapshot.code)) id
      (Controller.consult ((m.session filter).services program) snapshot) := by
  unfold Controller.consult Program.requestsFor Controller.callsFor
  cases hempty : snapshot.grammar.isEmpty with
  | true => exact .pure _
  | false =>
    have hlaunch : Carries m [(program, request snapshot.grammar snapshot.code)] id
        (((m.session filter).services program).analyze snapshot.grammar snapshot.code) :=
      .lift ((Machine.goes_launch program _).bind fun _ => Machine.goes_pure _ _)
    refine hlaunch.bind_idle fun raw => ?_
    cases interpret raw with
    | ok result => exact .pure _
    | error e => exact (carries_log m filter program _).bind fun _ => .pure _

/-- **A cycle keeps both texts and runs the analyzer on them.** -/
theorem carries_attend (c : Controller) :
    Carries m (program.requestsFor (c.grammar.text, c.code.text)) c.kept
      (c.attend ((m.session filter).services program)) := by
  have hconsult : Carries m (program.requestsFor (c.grammar.text, c.code.text)) id (do
      let answer ← Controller.consult ((m.session filter).services program) c.snapshot
      ((m.session filter).services program).log (c.cycled answer).2.finishedEvent
      return answer) :=
    (carries_consult m filter program c.snapshot).bind_idle fun answer =>
      (carries_log m filter program _).bind fun _ => .pure answer
  have hcode :=
    (carries_persist m filter program c.settings.codeKey c.code.text).bind fun _ => hconsult
  exact (carries_persist m filter program c.settings.grammarKey c.grammar.text).bind
    fun _ => hcode

/-- A cycle makes of the pipeline what it makes of it for some answer of the analyzer. -/
theorem runCycle_run (c : Controller) (v : Vault) (w : World) :
    ∃ answer w', ((c.runCycle ((m.session filter).services program)).run v).run w =
        ((c.cycled answer, c.kept v), w') ∧
      Passage m v.touched (program.requestsFor (c.grammar.text, c.code.text)) v (c.kept v) w
        w' := by
  obtain ⟨answer, w', hrun, hpassage⟩ := (carries_attend m filter program c).run_eq v w
  refine ⟨answer, w', ?_, hpassage⟩
  rw [Controller.runCycle_eq, map_eq_pure_bind, run_bind_states, hrun]
  rfl

/-- The same for the first cycle. -/
theorem start_run (c : Controller) (v : Vault) (w : World) :
    ∃ answer w', ((c.start ((m.session filter).services program)).run v).run w =
        ((c.cycled answer, c.kept v), w') ∧
      Passage m v.touched (program.requestsFor (c.grammar.text, c.code.text)) v (c.kept v) w
        w' := by
  obtain ⟨_, w₁, hlog, hstarting⟩ := (carries_log m filter program
    (.starting c.grammar.text.utf8ByteSize c.code.text.utf8ByteSize)).run_eq v w
  obtain ⟨answer, w₂, hrun, hcycle⟩ := runCycle_run m filter program c v w₁
  refine ⟨answer, w₂, ?_, hstarting.trans hcycle⟩
  simp only [Controller.start, run_bind_states, hlog, id_eq, hrun]

end Session

end GrammarLint
