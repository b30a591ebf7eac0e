/-
  GrammarLint/Proofs/Session/Watch.lean
  =====================================
  **What a session that watches two files keeps** — at every moment the texts of its last
  cycle.

  `watchStep_run` is all that one look at the files can do: either the vault stays as it
  is and no program is run, or there is one more cycle, and then the vault keeps the texts
  of the pipeline and the analyzer is run on them.  `Watched` is a session that has begun
  and looked at the files for some time, with the texts of its last cycle.  What holds of
  it after the first cycle and after every look (`Watched.tracked`) is that those texts
  are kept under the two keys, and are in the state file if no write has failed.
-/
import GrammarLint.Proofs.Session.Startup

namespace GrammarLint

open Sandbox

namespace Session

/-! ### Looking at one file -/

/-- What a look at a file makes of the pipeline: an edit, if its text is a new one. -/
inductive Reread (onDisk : Option String) (stage : Stage) (c : Controller) : Controller → Prop
  | same (h : ∀ text, onDisk = some text → text = (c.buffer stage).text) :
    Reread onDisk stage c c
  | edited {text : String} (now : Nat) (h : onDisk = some text)
    (hne : text ≠ (c.buffer stage).text) : Reread onDisk stage c (c.edited stage text now)

theorem Reread.settings {onDisk : Option String} {stage : Stage} {c c' : Controller}
    (h : Reread onDisk stage c c') : c'.settings = c.settings := by
  cases h with
  | same h => rfl
  | edited now h hne => exact c.edited_settings stage _ now

theorem Reread.cycles {onDisk : Option String} {stage : Stage} {c c' : Controller}
    (h : Reread onDisk stage c c') : c'.cycles = c.cycles := by
  cases h with
  | same h => rfl
  | edited now h hne => exact c.edited_cycles stage _ now

variable (m : Machine) (filter : Log.Filter)

theorem edit_run (program : Program) (c : Controller) (stage : Stage) (text : String) (now : Nat)
    (v : Vault) (w : World) :
    ∃ w', ((c.edit ((m.session filter).services program) stage text now).run v).run w =
        (((((c.edited stage text now).buffer stage).version, c.edited stage text now), v), w') ∧
      Passage m v.touched [] v v w w' := by
  have heffects : Carries m [] id
      (c.effects ((m.session filter).services program) (.edit stage text now)) :=
    (carries_log m filter program _).bind fun _ => .pure _
  obtain ⟨answer, w', hrun, hpassage⟩ := heffects.run_eq v w
  refine ⟨w', ?_, hpassage⟩
  rw [Controller.edit_eq, map_eq_pure_bind, run_bind_states, hrun]
  rfl

theorem reread_run (job : Job) (stage : Stage) (c : Controller) (v : Vault) (w : World) :
    ∃ c' w', (((m.session filter).reread job stage c).run v).run w = ((c', v), w') ∧
      Passage m v.touched [] v v w w' ∧
      Reread ((m.turn w).disk.text? (job.path stage)) stage c c' := by
  have hhost : (m.session filter).host = m.host := rfl
  have hturn := Machine.Course.turn (m := m) [] w
  obtain ⟨result, hread, hresult⟩ := m.readText_run (job.path stage) w
  simp only [reread, hhost, run_bind_states, run_lift, hread]
  cases result with
  | error e =>
    have hnote := goes_note m filter (skippedRecord stage e) (m.turn w)
    refine ⟨c, _, rfl, .quiet v (hturn.trans hnote), .same ?_⟩
    intro text htext
    rw [← hresult] at htext
    cases htext
  | ok text =>
    by_cases hsame : text = (c.buffer stage).text
    · refine ⟨c, m.turn w, ?_, .quiet v hturn, .same ?_⟩
      · simp only [if_pos hsame]
        rfl
      · intro other hother
        rw [← hresult] at hother
        cases hother
        exact hsame
    · have hnow : m.host.now.run (m.turn w) = ((m.turn (m.turn w)).clock, m.turn (m.turn w)) := rfl
      obtain ⟨w', hedit, hpassage⟩ := edit_run m filter job.analyzer c stage text
        (m.turn (m.turn w)).clock v (m.turn (m.turn w))
      refine ⟨c.edited stage text (m.turn (m.turn w)).clock, w', ?_, ?_, ?_⟩
      · simp only [if_neg hsame, run_bind_states, run_lift, hnow, hedit]
        rfl
      · exact (Passage.quiet v (hturn.trans (.turn [] (m.turn w)))).trans hpassage
      · exact .edited _ hresult.symm hsame

/-! ### Looking at both files -/

theorem poll_run_of_not_due (program : Program) {c : Controller} {now : Nat}
    (h : ¬ c.debouncer.Due now) (v : Vault) (w : World) :
    ((c.poll ((m.session filter).services program) now).run v).run w = (((none, c), v), w) := by
  simp only [Controller.poll, Debouncer.takeDue_of_not_due h]
  rfl

theorem poll_run_of_due (program : Program) {c : Controller} {now : Nat}
    (h : c.debouncer.Due now) (v : Vault) (w : World) :
    ∃ answer w', ((c.poll ((m.session filter).services program) now).run v).run w =
        (((some (c.disarmed.cycled answer).1, (c.disarmed.cycled answer).2), c.kept v), w') ∧
      Passage m v.touched (program.requestsFor (c.grammar.text, c.code.text)) v (c.kept v) w
        w' := by
  obtain ⟨p, hp, hle⟩ := h
  obtain ⟨_, w₁, hlog, helapsed⟩ := (carries_log m filter program
    (.elapsed p.action.stage p.action.version)).run_eq v w
  obtain ⟨answer, w₂, hrun, hcycle⟩ := runCycle_run m filter program c.disarmed v w₁
  have hdisarmed : ((({ c with debouncer := c.debouncer.disarmed } : Controller).runCycle
      ((m.session filter).services program)).run v).run w₁ =
        ((c.disarmed.cycled answer, c.kept v), w₂) := hrun
  refine ⟨answer, w₂, ?_, helapsed.trans hcycle⟩
  simp only [Controller.poll, Debouncer.takeDue_of_pending hp hle, run_bind_states, hlog, id_eq]
  rw [hdisarmed]
  rfl

/-- **All that one look at the files can do**: nothing but edits, or one more cycle on the
    texts that the pipeline has then. -/
inductive Looked (m : Machine) (program : Program) (c : Controller) (v : Vault) (w : World) :
    Controller → Vault → World → Prop
  | waited {c' : Controller} {w' : World} (settings : c'.settings = c.settings)
    (cycles : c'.cycles = c.cycles) (passage : Passage m v.touched [] v v w w') :
    Looked m program c v w c' v w'
  | cycled {c' : Controller} {w' : World} (settings : c'.settings = c.settings)
    (cycles : c'.cycles = c.cycles + 1)
    (passage : Passage m v.touched (program.requestsFor (c'.grammar.text, c'.code.text)) v
      (c'.kept v) w w') : Looked m program c v w c' (c'.kept v) w'

theorem watchStep_run (format : Format) (job : WatchJob) (c : Controller) (v : Vault)
    (w : World) :
    ∃ c' v' w', (((m.session filter).watchStep format job c).run v).run w = ((c', v'), w') ∧
      Looked m job.job.analyzer c v w c' v' w' := by
  have hhost : (m.session filter).host = m.host := rfl
  have hnow : ∀ w, m.host.now.run w = ((m.turn w).clock, m.turn w) := fun _ => rfl
  obtain ⟨c₁, w₁, hgrammar, hpassage₁, hreread₁⟩ := reread_run m filter job.job .grammar c v w
  obtain ⟨c₂, w₂, hcode, hpassage₂, hreread₂⟩ := reread_run m filter job.job .code c₁ v w₁
  have hpassage := (hpassage₁.trans hpassage₂).trans (.quiet v (.turn [] w₂))
  have hsettings := hreread₂.settings.trans hreread₁.settings
  have hcycles := hreread₂.cycles.trans hreread₁.cycles
  simp only [watchStep, run_bind_states, hgrammar, hcode, hhost, run_lift, hnow]
  by_cases hdue : c₂.debouncer.Due (m.turn w₂).clock
  · obtain ⟨answer, w₃, hpoll, hcycle⟩ :=
      poll_run_of_due m filter job.job.analyzer hdue v (m.turn w₂)
    have hannounce := goes_announce m filter format job.job (c₂.disarmed.cycled answer).2
      (c₂.disarmed.cycled answer).1 w₃
    simp only [hpoll, run_bind_states, run_lift]
    -- The cycle leaves the texts as they are, so it keeps those that it ends with.
    have hkept : (c₂.disarmed.cycled answer).2.kept v = c₂.kept v := by
      rw [Controller.kept_cycled]
      rfl
    refine ⟨(c₂.disarmed.cycled answer).2, _, _, rfl, ?_⟩
    rw [← hkept]
    refine .cycled ?_ ?_ ?_
    · rw [Controller.cycled_settings]
      exact hsettings
    · rw [Controller.cycled_cycles]
      exact congrArg (· + 1) hcycles
    · rw [hkept, Controller.cycled_grammar, Controller.cycled_code]
      exact hpassage.trans (hcycle.trans_quiet (.quiet (c₂.kept v) hannounce))
  · have hsleep := (Machine.Course.turn [] (m.turn w₂)).trans
      (Machine.goes_sleep (pause job c₂ (m.turn (m.turn w₂)).clock) (m.turn (m.turn w₂)))
    simp only [poll_run_of_not_due m filter job.job.analyzer hdue, run_bind_states, run_lift, hnow]
    exact ⟨c₂, v, _, rfl, .waited hsettings hcycles (hpassage.trans (.quiet v hsleep))⟩

variable {m filter}

theorem looked_of_watchStep {format : Format} {job : WatchJob} {c c' : Controller} {v v' : Vault}
    {w w' : World}
    (h : (((m.session filter).watchStep format job c).run v).run w = ((c', v'), w')) :
    Looked m job.job.analyzer c v w c' v' w' := by
  obtain ⟨_, _, _, hrun, hlooked⟩ := watchStep_run m filter format job c v w
  rw [h] at hrun
  cases hrun
  exact hlooked

/-! ### Sessions that have watched for some time -/

/-- **A session that has begun at `start` and looked at its files for some time**, with the
    texts of its last cycle.  A cycle leaves the texts as they are, and a look ends with it,
    so these are the texts of the pipeline at the end of the look. -/
inductive Watched (s : Session (StateM World)) (format : Format) (job : WatchJob) (start : World) :
    Controller → Vault → World → (Stage → String) → Prop
  | begun {c : Controller} {v : Vault} {w : World}
    (h : (s.beginWatch format job).run start = (.ok (c, v), w)) :
    Watched s format job start c v w c.texts
  | waited {c c' : Controller} {v v' : Vault} {w w' : World} {texts : Stage → String}
    (before : Watched s format job start c v w texts) (more : watchedEnough job c = false)
    (h : ((s.watchStep format job c).run v).run w = ((c', v'), w'))
    (same : c'.cycles = c.cycles) : Watched s format job start c' v' w' texts
  | cycled {c c' : Controller} {v v' : Vault} {w w' : World} {texts : Stage → String}
    (before : Watched s format job start c v w texts) (more : watchedEnough job c = false)
    (h : ((s.watchStep format job c).run v).run w = ((c', v'), w'))
    (another : c'.cycles ≠ c.cycles) : Watched s format job start c' v' w' c'.texts

section Watched

variable {s : Session (StateM World)} {format : Format} {job : WatchJob} {start : World}

/-- Looking at the files for so many steps at most. -/
theorem Watched.watchOn {c : Controller} {v : Vault} {w : World} {texts : Stage → String}
    (h : Watched s format job start c v w texts) (steps : Nat) :
    ∃ c' v' texts', Watched s format job start c' v'
      (((s.watchOn format job steps c).run v).run w).2 texts' := by
  induction steps generalizing c v w texts with
  | zero => exact ⟨c, v, texts, h⟩
  | succ steps ih =>
    rw [Session.watchOn]
    cases hmore : watchedEnough job c with
    | true => exact ⟨c, v, texts, h⟩
    | false =>
      rcases hrun : ((s.watchStep format job c).run v).run w with ⟨⟨c', v'⟩, w'⟩
      simp only [Bool.false_eq_true, if_false, run_bind_states, hrun]
      by_cases hsame : c'.cycles = c.cycles
      · exact ih (.waited h hmore hrun hsame)
      · exact ih (.cycled h hmore hrun hsame)

/-- **Every run of a session is one that has watched for some time**, once it has begun. -/
theorem watched_of_watch {steps : Nat} {status : Option Nat} {stop : World}
    (h : (s.watch format job steps).run start = (.ok status, stop)) :
    ∃ c v texts, Watched s format job start c v stop texts := by
  obtain ⟨⟨c, v⟩, w, hbegin, h⟩ := run_attempt_eq_ok h fun _ => rfl
  dsimp only at h
  rw [run_bind_state] at h
  cases h
  exact (Watched.begun hbegin).watchOn steps

end Watched

/-- **What holds at every moment**: the texts of the last cycle are kept, they are in the
    state file if no write has failed, and the analyzer was run on them last. -/
structure Tracked (job : WatchJob) (path : String) (settings : Settings) (start : World)
    (c : Controller) (v : Vault) (w : World) (texts : Stage → String) : Prop where
  settings_eq : c.settings = settings
  path_eq : v.path = some path
  kept : ∀ stage, v.get? (settings.key stage) = some (texts stage)
  failures : start.failures ≤ w.failures
  inFile : w.failures = start.failures → v.InFile w.disk
  requested : ∃ before, w.launches.toList =
    before ++ job.job.analyzer.requestsFor (texts .grammar, texts .code)

section Tracked

variable {m : Machine} {filter : Log.Filter} {format : Format} {job : WatchJob} {path : String}
  {settings : Settings} {start : World}

/-- It holds after the first cycle. -/
theorem tracked_beginWatch (hstate : job.state = some path) (hspares : m.Spares path)
    (htemporary : m.Spares (Vault.temporary path))
    (haway : ∀ stage, Disk.destination path ≠ Disk.destination (job.job.path stage))
    (hsettings : (((m.session filter).settings job.job).run start).1 = .ok settings)
    {c : Controller} {v : Vault} {w : World}
    (h : ((m.session filter).beginWatch format job).run start = (.ok (c, v), w)) :
    Tracked job path settings start c v w c.texts := by
  obtain ⟨settings', v₀, v₁, v₂, w₁, w₂, w₃, w₄, hread, hvault, hgrammar, hcode, hcycle⟩ :=
    beginWatch_eq_ok_iff.mp h
  rw [hread] at hsettings
  cases hsettings
  rw [hstate] at hvault
  have hopening := goes_settings m filter job.job start
  have hopened := goes_openVault m filter (some path) w₁
  rw [hread] at hopening
  rw [hvault] at hopened
  obtain ⟨hpath, hfile⟩ := inFile_openVault filter hspares hvault
  have hkeys := keys_ne_of_settings hread
  have hspared := Vault.spared_of_path hpath hspares htemporary
  have hadopted := passage_of_adopt_both hgrammar hcode fun p hp => by
    rw [hpath] at hp
    cases hp
    exact haway
  obtain ⟨c', w', hrun, hc, -, -, hcycled⟩ := firstCycle_run m filter format job.job settings v₂ w₄
  rw [hcycle] at hrun
  cases hrun
  rw [Vault.touched_of_path_eq hadopted.path] at hcycled
  have hall := hadopted.trans (hcycled.mono (by simp))
  have hbefore : start.failures ≤ w₂.failures := (hopening.trans hopened).failures
  refine ⟨hc, hall.path.trans hpath, fun stage => ?_, ?_, ?_, ?_⟩
  · rw [← hc] at hkeys ⊢
    exact c.get?_kept v₂ hkeys stage
  · exact Nat.le_trans hbefore hall.failures
  · exact hall.inFile_since hspared hbefore fun _ => hfile
  · exact ⟨w₂.launches.toList, hall.launches⟩

/-- It goes on to hold with every look at the files. -/
theorem Tracked.looked (hspares : m.Spares path) (htemporary : m.Spares (Vault.temporary path))
    (hkeys : settings.grammarKey ≠ settings.codeKey) {c c' : Controller} {v v' : Vault}
    {w w' : World} {texts : Stage → String} (h : Tracked job path settings start c v w texts)
    (hlooked : Looked m job.job.analyzer c v w c' v' w') :
    (c'.cycles = c.cycles → Tracked job path settings start c' v' w' texts) ∧
      (c'.cycles ≠ c.cycles → Tracked job path settings start c' v' w' c'.texts) := by
  have hspared := Vault.spared_of_path h.path_eq hspares htemporary
  cases hlooked with
  | waited hsettings hcycles passage =>
    refine ⟨fun _ => ?_, fun hne => absurd hcycles hne⟩
    obtain ⟨before, hbefore⟩ := h.requested
    refine ⟨hsettings.trans h.settings_eq, h.path_eq, h.kept,
      Nat.le_trans h.failures passage.failures,
      passage.inFile_since hspared h.failures h.inFile, before, ?_⟩
    rw [passage.launches, hbefore, List.append_nil]
  | cycled hsettings hcycles passage =>
    refine ⟨fun heq => absurd (heq.symm.trans hcycles) (Nat.ne_of_lt (Nat.lt_succ_self _)),
      fun _ => ?_⟩
    have hc := hsettings.trans h.settings_eq
    refine ⟨hc, passage.path.trans h.path_eq, fun stage => ?_,
      Nat.le_trans h.failures passage.failures,
      passage.inFile_since hspared h.failures h.inFile, _, passage.launches⟩
    rw [← hc] at hkeys ⊢
    exact c'.get?_kept v hkeys stage

/-- **The texts of the last cycle are kept** at every moment of a session. -/
theorem Watched.tracked (hstate : job.state = some path) (hspares : m.Spares path)
    (htemporary : m.Spares (Vault.temporary path))
    (haway : ∀ stage, Disk.destination path ≠ Disk.destination (job.job.path stage))
    (hsettings : (((m.session filter).settings job.job).run start).1 = .ok settings)
    {c : Controller} {v : Vault} {w : World} {texts : Stage → String}
    (h : Watched (m.session filter) format job start c v w texts) :
    Tracked job path settings start c v w texts := by
  have hkeys := keys_ne_of_settings (Prod.ext hsettings rfl)
  -- Along the looks at the files, with `Tracked` as the invariant.
  induction h with
  | begun h => exact tracked_beginWatch hstate hspares htemporary haway hsettings h
  | waited before more h same ih =>
    exact (ih.looked hspares htemporary hkeys (looked_of_watchStep h)).1 same
  | cycled before more h another ih =>
    exact (ih.looked hspares htemporary hkeys (looked_of_watchStep h)).2 another

end Tracked

end Session

end GrammarLint
