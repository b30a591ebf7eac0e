/-
  GrammarLint/Proofs/Session/Loop.lean
  ====================================
  **The watch loop** — which texts a session runs its cycles on, when there is another
  cycle, and what it reports, whatever the files, the clock and the analyzer do.

  The session runs on a host that writes down what is done, and what is written down comes
  apart into an opening, the first cycle with its report, and the looks at the files.
  `Look.Done` is what a look is to the machine: each file is read once, and then there is
  either a cycle with its report, or a pause.  The report is what `Reports` says of a cycle
  on the texts that the analyzer was consulted about.  What the looks make of the pipeline
  is said in terms of `Path`, where the machine does not occur any more.
-/
import GrammarLint.Proofs.CommandLine
import GrammarLint.Proofs.Report.Wording
import GrammarLint.Proofs.Session.Lint
import GrammarLint.Proofs.Session.Looks

namespace GrammarLint

open Sandbox

variable {σ : Type}

/-! ### What a look is to the machine -/

/-- Both files are read, the grammar first. -/
def readings (job : Job) (answer : Stage → Except FileError ByteArray)
    (aside : Stage → List Deed) : List Deed :=
  (.read job.grammar (answer .grammar) :: aside .grammar) ++
    (.read job.code (answer .code) :: aside .code)

/-- What is told about a cycle: its number, how it ended, and what is shown then, for a person
    over the texts that it was run on. -/
def Cycle.Reports (cycle : Cycle) (format : Format) (job : Job) : List Chunk → Prop :=
  GrammarLint.Reports (job.grammar, job.code) cycle.texts cycle.number cycle.outcome
    cycle.pipeline.display format

theorem Cycle.reports_report {cycle : Cycle}
    (hfits : cycle.outcome.Fits cycle.pipeline.display) (format : Format) (job : Job) :
    cycle.Reports format job (cycle.report format job.path) :=
  GrammarLint.reports_report format job.path hfits

/-- **What is done for a look**: both files are read, and then there is a pause, or a cycle on
    the texts of the pipeline and its report.  Nothing else that matters is done. -/
inductive Look.Done (format : Format) (job : Job) : Look → List Deed → Prop
  | waited {answer : Stage → Except FileError ByteArray} {aside : Stage → List Deed}
    (haside : ∀ stage, ∀ d ∈ aside stage, d.Minor) {rest : List Deed}
    (hrest : ∀ d ∈ rest, d.Minor) (ms : Nat) :
    Done format job ⟨fun stage => textRead (answer stage), none⟩
      (readings job answer aside ++ (rest ++ [.slept ms]))
  | cycled {answer : Stage → Except FileError ByteArray} {aside : Stage → List Deed}
    (haside : ∀ stage, ∀ d ∈ aside stage, d.Minor) {cycle : Cycle}
    {result : Option (Except AnalysisError AnalysisResult)} {work : List Deed}
    (hwork : Attended job.analyzer cycle.texts result work) {told : List Chunk}
    (htold : cycle.Reports format job told) :
    Done format job ⟨fun stage => textRead (answer stage), some cycle⟩
      (readings job answer aside ++ (work ++ told.map .printed))

namespace Session

variable (s : Session (StateM σ))

/-! ### The parts of a look -/

theorem records_edit (program : Program) (c : Controller) (stage : Stage) (text : String)
    (now : Nat) :
    RecordsIn (c.edit (s.recording.services program) stage text now)
      (c.edit (s.services program) stage text now) fun r deeds =>
        r.2 = c.edited stage text now ∧ ∀ d ∈ deeds, d.Minor := by
  rw [Controller.edit_eq, Controller.edit_eq, map_eq_pure_bind, map_eq_pure_bind]
  have heffects : WithinIn Deed.Minor
      (c.effects (s.recording.services program) (.edit stage text now))
      (c.effects (s.services program) (.edit stage text now)) :=
    WithinIn.bind (s.withinIn_log program _) fun _ => withinIn_pure _
  apply RecordsIn.bind heffects
  intro _ deeds hdeeds
  apply recordsIn_pure
  rw [List.append_nil]
  exact ⟨rfl, hdeeds⟩

theorem records_reread (job : Job) (stage : Stage) (c : Controller) :
    RecordsIn (s.recording.reread job stage c) (s.reread job stage c) fun c' deeds =>
      ∃ answer aside, deeds = .read (job.path stage) answer :: aside ∧
        (∀ d ∈ aside, d.Minor) ∧ Reread (textRead answer) stage c c' := by
  unfold reread
  apply (records_readText s.host (job.path stage)).lift.bind
  rintro result _ ⟨answer, rfl, hanswer⟩
  cases result with
  | error e =>
    have hnote : WithinIn Deed.Minor (StateT.lift (s.recording.note (skippedRecord stage e)))
        (StateT.lift (s.note (skippedRecord stage e))) := Records.lift (s.within_note _)
    apply RecordsIn.bind hnote
    intro _ aside haside
    apply recordsIn_pure
    refine ⟨answer, aside, by simp, haside, .same ?_⟩
    intro text htext
    rw [hanswer] at htext
    cases htext
  | ok text =>
    have hread : textRead answer = some text := hanswer
    by_cases hsame : text = (c.buffer stage).text
    · simp only [if_pos hsame]
      apply recordsIn_pure
      refine ⟨answer, [], rfl, fun _ h => (nomatch h), .same ?_⟩
      intro other hother
      rw [hread] at hother
      cases hother
      exact hsame
    · simp only [if_neg hsame]
      have hnow := (records_recorded .told s.host.now).lift
      apply hnow.bind
      rintro now _ rfl
      apply (s.records_edit job.analyzer c stage text now).bind
      rintro ⟨_, c'⟩ aside ⟨rfl, haside⟩
      apply recordsIn_pure
      refine ⟨answer, .told now :: aside, by simp, ?_, .edited now hread hsame⟩
      intro d hd
      rcases List.mem_cons.mp hd with rfl | hd
      · exact .told now
      · exact haside d hd

/-- What comes of a poll: nothing, or a cycle, which takes the waiting edit. -/
inductive Polled (program : Program) (c : Controller) :
    Option Outcome × Controller → List Deed → Prop
  | early : Polled program c (none, c) []
  | due (hpending : c.debouncer.isPending)
    {answer : Option (Except AnalysisError AnalysisResult)} {work : List Deed}
    (hwork : Attended program (c.grammar.text, c.code.text) answer work) :
    Polled program c
      (some (c.disarmed.cycled answer).1, (c.disarmed.cycled answer).2) work

theorem records_poll (program : Program) (c : Controller) (now : Nat) :
    RecordsIn (c.poll (s.recording.services program) now) (c.poll (s.services program) now)
      (Polled program c) := by
  unfold Controller.poll
  by_cases hdue : c.debouncer.Due now
  · obtain ⟨p, hp, hle⟩ := hdue
    simp only [Debouncer.takeDue_of_pending hp hle]
    apply RecordsIn.bind (s.withinIn_log program _)
    intro _ elapsed helapsed
    apply (s.records_runCycle program c.disarmed).bind
    rintro ⟨outcome, c'⟩ work ⟨answer, hr, hwork⟩
    cases hr
    apply recordsIn_pure
    rw [List.append_nil]
    have hpending : c.debouncer.isPending := by
      rw [Debouncer.isPending, hp]
      rfl
    exact .due hpending (hwork.prepend helapsed)
  · simp only [Debouncer.takeDue_of_not_due hdue]
    apply recordsIn_pure
    exact .early

/-! ### A look, and looks in a row -/

/-- Both files are read again, each once. -/
theorem records_rereads (job : Job) (c : Controller) :
    RecordsIn (s.recording.reread job .grammar c >>= s.recording.reread job .code)
      (s.reread job .grammar c >>= s.reread job .code) fun c₂ deeds =>
        ∃ answer aside c₁, deeds = readings job answer aside ∧
          (∀ stage, ∀ d ∈ aside stage, d.Minor) ∧
          Reread (textRead (answer .grammar)) .grammar c c₁ ∧
          Reread (textRead (answer .code)) .code c₁ c₂ := by
  apply (s.records_reread job .grammar c).bind
  rintro c₁ _ ⟨answer₁, aside₁, rfl, haside₁, hgrammar⟩
  apply (s.records_reread job .code c₁).mono
  rintro c₂ _ ⟨answer₂, aside₂, rfl, haside₂, hcode⟩
  refine ⟨fun stage => stage.casesOn answer₁ answer₂, fun stage => stage.casesOn aside₁ aside₂, c₁,
    rfl, ?_, hgrammar, hcode⟩
  intro stage
  cases stage with
  | grammar => exact haside₁
  | code => exact haside₂

theorem records_watchStep (format : Format) (w : WatchJob) (c : Controller) :
    RecordsIn (s.recording.watchStep format w c) (s.watchStep format w c) fun c' deeds =>
      ∃ look : Look, look.Done format w.job deeds ∧ look.Leads c c' := by
  unfold watchStep
  rw [← bind_assoc, ← bind_assoc]
  apply (s.records_rereads w.job c).bind
  rintro c₂ _ ⟨answer, aside, c₁, rfl, haside, hgrammar, hcode⟩
  have hnow := (records_recorded .told s.host.now).lift
  apply hnow.bind
  rintro now _ rfl
  have htold : ∀ d ∈ [Deed.told now], d.Minor := by
    intro d hd
    rw [List.mem_singleton.mp hd]
    exact .told now
  apply (s.records_poll w.job.analyzer c₂ now).bind
  rintro _ work (_ | @⟨hpending, result, _, hwork⟩)
  · apply hnow.bind
    rintro later _ rfl
    have hslept := records_recorded (fun _ => .slept (pause w c₂ later))
      (s.host.sleep (pause w c₂ later))
    apply hslept.lift.bind
    rintro _ _ rfl
    apply recordsIn_pure
    refine ⟨⟨fun stage => textRead (answer stage), none⟩, ?_, .waited hgrammar hcode rfl⟩
    have hboth : ∀ d ∈ [Deed.told now, Deed.told later], d.Minor := by
      intro d hd
      rcases List.mem_cons.mp hd with rfl | hd
      · exact .told now
      · rw [List.mem_singleton.mp hd]
        exact .told later
    exact .waited haside hboth _
  · apply (s.records_announce format w.job _ _).lift.bind
    rintro _ _ rfl
    apply recordsIn_pure
    refine ⟨⟨fun stage => textRead (answer stage),
      some ⟨(c₂.disarmed.cycled result).2, (c₂.disarmed.cycled result).1⟩⟩, ?_,
      .cycled hgrammar hcode hpending result rfl⟩
    rw [List.append_nil, ← List.append_assoc [Deed.told now]]
    have hattended : Attended w.job.analyzer
        (Cycle.texts ⟨(c₂.disarmed.cycled result).2, (c₂.disarmed.cycled result).1⟩) result
        ([Deed.told now] ++ work) := by
      rw [Cycle.texts, Controller.cycled_grammar, Controller.cycled_code]
      exact hwork.prepend htold
    exact .cycled haside hattended
      (Cycle.reports_report (c₂.disarmed.fits_cycled result) format w.job)

/-- Looking at the files for so many steps at most. -/
theorem records_watchOn (format : Format) (w : WatchJob) (steps : Nat) (c : Controller) :
    RecordsIn (s.recording.watchOn format w steps c) (s.watchOn format w steps c)
      fun result deeds => ∃ looks parts c', List.Forall₂ (Look.Done format w.job) looks parts ∧
        deeds = parts.flatten ∧ Path w c looks c' ∧
        result = (if watchedEnough w c' then some c' else none) ∧
        (watchedEnough w c' = false → looks.length = steps) := by
  induction steps generalizing c with
  | zero =>
    apply recordsIn_pure
    exact ⟨[], [], c, .nil, rfl, .done c, rfl, fun _ => rfl⟩
  | succ steps ih =>
    unfold watchOn
    cases hmore : watchedEnough w c with
    | true =>
      simp only [if_true]
      apply recordsIn_pure
      refine ⟨[], [], c, .nil, rfl, .done c, by rw [hmore]; rfl, ?_⟩
      intro hnot
      rw [hmore] at hnot
      cases hnot
    | false =>
      simp only [Bool.false_eq_true, if_false]
      apply (s.records_watchStep format w c).bind
      rintro c₁ part ⟨look, hdone, hleads⟩
      apply (ih c₁).mono
      rintro result _ ⟨looks, parts, c', hdones, rfl, hpath, hresult, hlength⟩
      refine ⟨look :: looks, part :: parts, c', .cons hdone hdones, rfl,
        .more hmore hleads hpath, hresult, ?_⟩
      intro hnot
      rw [List.length_cons, hlength hnot]

/-! ### The opening -/

theorem within_openVault (state : Option String) :
    Within Deed.Opening (s.recording.openVault state) (s.openVault state) := by
  cases state with
  | none => exact within_pure _
  | some path =>
    have hopen : Within Deed.Opening (Vault.openFile s.recording.host path)
        (Vault.openFile s.host path) := by
      apply (within_recorded (fun there => Deed.Opening.minor (.sought path there))
        (s.host.pathExists path)).bind
      intro there
      cases there with
      | false => exact within_pure _
      | true =>
        apply (within_readText s.host path).bind
        intro result
        cases result with
        | error e => exact within_pure _
        | ok text =>
          dsimp only
          cases Vault.parse text <;> exact within_pure _
    exact hopen.bind fun _ => within_pure _

theorem within_adopt (job : Job) (settings : Settings) (stage : Stage) (v : Vault) :
    Within Deed.Opening (s.recording.adopt job settings stage v)
      (s.adopt job settings stage v) := by
  have hminor : ∀ {α : Type} {x' : StateM (List Deed × σ) α} {x : StateM σ α},
      Within Deed.Minor x' x → Within Deed.Opening x' x := fun h => h.mono fun _ => .minor
  apply (within_recorded (fun there => Deed.Opening.minor (.sought (job.path stage) there))
    (s.host.pathExists (job.path stage))).bind
  intro there
  cases there with
  | true =>
    apply (s.within_source job stage).bind
    intro result
    cases result with
    | error trouble => exact within_pure _
    | ok text =>
      apply (hminor (within_set s.host v (settings.key stage) text)).bind
      rintro ⟨kept, v'⟩
      cases kept with
      | ok _ => exact within_pure _
      | error e => exact (hminor (s.within_note _)).bind fun _ => within_pure _
  | false =>
    apply (hminor (within_recorded (Deed.Minor.wrote _ _) (s.host.writeFile _ _))).bind
    intro result
    cases result with
    | error e => exact within_pure _
    | ok _ => exact (hminor (s.within_note _)).bind fun _ => within_pure _

theorem records_firstCycle (format : Format) (job : Job) (settings : Settings) :
    RecordsIn (s.recording.firstCycle format job settings) (s.firstCycle format job settings)
      fun c deeds => ∃ outcome answer work,
        Attended job.analyzer (c.grammar.text, c.code.text) answer work ∧
        deeds = work ++ (report format job.path c outcome).map .printed ∧
        outcome.Fits c.display ∧ c.cycles = 1 ∧ c.debouncer.isPending = false := by
  unfold firstCycle
  apply (s.records_restore job.analyzer settings).bind
  rintro c _ ⟨rfl, grammar, code, rfl⟩
  apply (s.records_start job.analyzer (Controller.fresh settings grammar code)).bind
  rintro ⟨outcome, c⟩ work ⟨answer, hr, hwork⟩
  obtain rfl : outcome = ((Controller.fresh settings grammar code).cycled answer).1 :=
    congrArg Prod.fst hr
  obtain rfl : c = ((Controller.fresh settings grammar code).cycled answer).2 :=
    congrArg Prod.snd hr
  apply (s.records_announce format job _ _).lift.bind
  rintro _ _ rfl
  apply recordsIn_pure
  refine ⟨_, answer, work, ?_, ?_, Controller.fits_cycled _ answer, ?_, ?_⟩
  · rw [Controller.cycled_grammar, Controller.cycled_code]
    exact hwork
  · rw [List.append_nil]
    rfl
  · rw [Controller.cycled_cycles]
    rfl
  · rw [Controller.cycled_debouncer]
    rfl

/-- Nothing has to be said about a session that does not begin. -/
theorem records_trouble {P : Controller → Vault → List Deed → Prop} (trouble : Trouble) :
    Records (pure (.error trouble) : StateM (List Deed × σ) (Except Trouble (Controller × Vault)))
      (pure (.error trouble) : StateM σ _) fun result deeds =>
        ∀ c v, result = .ok (c, v) → P c v deeds := by
  apply records_pure
  intro c v hok
  cases hok

/-- A session that begins ends its opening with a first cycle and the report of it. -/
theorem records_beginWatch (format : Format) (w : WatchJob) :
    Records (s.recording.beginWatch format w) (s.beginWatch format w) fun result deeds =>
      ∀ c v, result = .ok (c, v) → ∃ opening outcome answer work,
        (∀ d ∈ opening, Deed.Opening d) ∧
        Attended w.job.analyzer (c.grammar.text, c.code.text) answer work ∧
        deeds = opening ++ (work ++ (report format w.job.path c outcome).map .printed) ∧
        outcome.Fits c.display ∧ c.cycles = 1 ∧ c.debouncer.isPending = false := by
  unfold beginWatch
  apply Records.bind (s.within_settings w.job)
  rintro (_ | settings) k₁ hk₁
  · exact records_trouble _
  apply Records.bind (s.within_openVault w.state)
  rintro (_ | v₀) k₂ hk₂
  · exact records_trouble _
  apply Records.bind (s.within_adopt w.job settings .grammar v₀)
  rintro (_ | v₁) k₃ hk₃
  · exact records_trouble _
  apply Records.bind (s.within_adopt w.job settings .code v₁)
  rintro (_ | v₂) k₄ hk₄
  · exact records_trouble _
  apply Records.bind (s.records_firstCycle format w.job settings v₂)
  rintro ⟨c, v⟩ _ ⟨outcome, answer, work, hwork, rfl, hfits, hcycles, hpending⟩
  apply records_pure
  rintro _ _ ⟨⟩
  refine ⟨k₁ ++ k₂ ++ k₃ ++ k₄, outcome, answer, work, ?_, hwork, by simp, hfits, hcycles,
    hpending⟩
  intro d hd
  simp only [List.mem_append] at hd
  rcases hd with ((hd | hd) | hd) | hd
  · exact hk₁ d hd
  · exact hk₂ d hd
  · exact hk₃ d hd
  · exact hk₄ d hd

/-! ### From the command line to the end -/

/-- A command line that asks for two files to be watched, and a session that begins with it:
    the pipeline and the vault after the first cycle. -/
structure Watches (host : Host (StateM σ)) (start : Start) (i : Invocation) (w : WatchJob)
    (c : Controller) (v : Vault) (x x' : σ) : Prop where
  invocation : CommandLine.invocation start.arguments = .ok i
  order : i.order = .watch w
  begun : ((ofInvocation host start i).beginWatch (formatOf start i) w).run x = (.ok (c, v), x')

variable {host : Host (StateM σ)} {start : Start} {i : Invocation} {w : WatchJob}
  {c : Controller} {v : Vault} {x x' : σ}

theorem Watches.run_eq (h : Watches host start i w c v x x') (steps : Nat) :
    (run host start steps).run x =
      ((((ofInvocation host start i).watchOn (formatOf start i) w steps c).run v).run x').map
        (fun r => r.1.map fun _ => 0) id := by
  obtain ⟨hinvocation, horder, hbegun⟩ := h
  rcases hon : (((ofInvocation host start i).watchOn (formatOf start i) w steps c).run v).run
    x' with ⟨⟨result, v'⟩, stop⟩
  simp only [run, hinvocation, carryOut, horder, watch, run_bind_state, hbegun, hon]
  rfl

/-- **Watching, from the command line on.**  Let two files be watched, and let the session
    have begun.  Whatever the files are when they are looked at, whatever the clock says and
    whatever comes of the analyzer: there is a first cycle with its report, and then looks at
    the files, each with a pause or with a cycle and its report.  The report of a cycle is
    made before anything else is done, and tells its number, how it ended, and what is shown,
    to a program in one line that can be read, and to a person in words over the texts of the
    cycle.  These texts can be read from what the analyzer is sent.

    A cycle is run on the texts that were read last, or on those of the first cycle where
    none could be read.  It has a reason: a text that was read since the cycle before it and
    was not the text there was.  Cycles are numbered one by one.

    If some number of cycles is asked for, there are never more of them, except that there
    is always the first one, and the session is over exactly when there are as many.  It is
    never over otherwise.  To watch once is to ask for one cycle. -/
theorem watch_loop (h : Watches host start i w c v x x') (steps : Nat) :
    ∃ (status : Option Nat) (stop : σ) (opening work : List Deed) (first : Cycle)
      (answer : Option (Except AnalysisError AnalysisResult)) (told : List Chunk)
      (looks : List Look) (parts : List (List Deed)),
      let format := formatOf start i
      let cycles := first :: cyclesOf looks
      (run host start steps).run x = (status, stop) ∧
      (run host.recording start steps).run ([], x) =
        (status, (opening ++ (work ++ told.map .printed) ++ parts.flatten, stop)) ∧
      (∀ d ∈ opening, d.Opening) ∧ Attended w.job.analyzer first.texts answer work ∧
      first.Reports format w.job told ∧ first.pipeline = c ∧
      List.Forall₂ (Look.Done format w.job) looks parts ∧
      (∀ cycle ∈ cycles, textsOfRequest? (request cycle.texts.1 cycle.texts.2).toUTF8 =
        some cycle.texts) ∧
      (∀ (i : Nat) (cycle : Cycle), cycleAt looks i = some cycle → ∀ stage,
        cycle.pipeline.texts stage = textAfter c.texts (looks.take (i + 1)) stage) ∧
      (∀ (i : Nat) (cycle : Cycle), cycleAt looks i = some cycle →
        ∃ j ≤ i, (∀ k, j ≤ k → k < i → cycleAt looks k = none) ∧
          ∃ look, looks[j]? = some look ∧ look.Finds (textAfter c.texts (looks.take j))) ∧
      cycles.map (·.number) = List.range' 1 cycles.length ∧
      (status = none ∧ looks.length = steps ∨ status = some 0) ∧
      (w.cycles = none → status = none) ∧
      (∀ n, w.cycles = some n → cycles.length ≤ max 1 n ∧
        (status = some 0 ↔ cycles.length = max 1 n)) ∧
      ∃ inner outer, CommandLine.interface.parse start.arguments = .ok (.watch w, inner, outer) ∧
        (inner.Names "once" → w.cycles = some 1) ∧
        (¬ inner.Names "once" → w.cycles = (inner.numbers "cycles").head?) := by
  have hrun := h.run_eq steps
  obtain ⟨new, hnew, hbegun⟩ :=
    (records_beginWatch (ofInvocation host start i) (formatOf start i) w).run_eq h.begun []
  obtain ⟨opening, outcome, answer, work, hopening, hwork, hdeeds, hfits, hone, hidle⟩ :=
    hnew c v rfl
  have hrecorded : Watches host.recording start i w c v ([], x) (new, x') :=
    ⟨h.invocation, h.order, hbegun⟩
  obtain ⟨_, ⟨looks, parts, c', hdone, rfl, hpath, hresult, hlength⟩, hon⟩ :=
    records_watchOn (ofInvocation host start i) (formatOf start i) w steps c v new x'
  have hrun' := hrecorded.run_eq steps
  rcases hplain : (((ofInvocation host start i).watchOn (formatOf start i) w steps c).run v).run x'
    with ⟨⟨result, v'⟩, stop⟩
  rw [hplain] at hrun hon hresult
  dsimp only at hresult
  refine ⟨result.map fun _ => 0, stop, opening, work, ⟨c, outcome⟩, answer, _, looks, parts, hrun,
    ?_, hopening, hwork, Cycle.reports_report hfits (formatOf start i) w.job, rfl, hdone,
    fun cycle _ => textsOfRequest?_request cycle.texts.1 cycle.texts.2,
    fun i cycle => hpath.cycle_texts, ?_, ?_, ?_, ?_, ?_, ?_⟩
  · rw [hrun']
    subst hdeeds
    exact congrArg (Prod.map (fun r => r.1.map fun _ => 0) id) hon
  · intro i cycle hcycle
    refine (hpath.reason hcycle).resolve_left ?_
    rintro ⟨hpending, -⟩
    rw [hidle] at hpending
    cases hpending
  · rw [List.length_cons, List.map_cons, List.range'_succ, hpath.numbers.2, Cycle.number, hone]
  · cases henough : watchedEnough w c' with
    | true => exact .inr (by rw [hresult, henough]; rfl)
    | false => exact .inl ⟨by rw [hresult, henough]; rfl, hlength henough⟩
  · intro hnone
    rw [hresult, watchedEnough, hnone]
    rfl
  · intro n hn
    obtain ⟨hle, henough⟩ := hpath.limit hone hn
    rw [List.length_cons, Nat.add_comm, ← henough, hresult]
    refine ⟨hle, ?_⟩
    cases watchedEnough w c' <;> simp
  · exact CommandLine.cycles_of_watch h.invocation h.order

/-- A machine on which the grammar is away for a while and comes back as another one. -/
def rewritten : Machine where
  run _ disk _ _ := (.ended (.code 0) "[[],[]]".toUTF8 "".toUTF8 .complete, disk)
  fate _ _ := .done
  meanwhile n disk :=
    if n = 10 then disk.erase ["", "g"]
    else if n = 20 then disk.put ["", "g"] (.file "B".toUTF8)
    else disk
  tick _ clock := clock + 200

/-- The machine with two files. -/
def unwritten : World :=
  .ofDisk ((Disk.empty.put ["", "g"] (.file "A".toUTF8)).put ["", "c"] (.file "x".toUTF8))

/-- **One change, one more cycle.** -/
theorem watch_loop_rewritten :
    let start : Start := ⟨["watch", "g", "c", "--analyzer", "a", "--cycles", "2"], none, false⟩
    let w : WatchJob := ⟨⟨"g", "c", ⟨"a", []⟩, none, none⟩, none, 100, some 2⟩
    let format := formatOf start ⟨.watch w, none, false⟩
    ∃ c v x' stop opening work first told looks parts,
      Watches rewritten.host start ⟨.watch w, none, false⟩ w c v unwritten x' ∧
        (run rewritten.host.recording start 5).run ([], unwritten) =
          (some 0, (opening ++ (work ++ told.map .printed) ++ parts.flatten, stop)) ∧
        first.Reports format w.job told ∧
        List.Forall₂ (Look.Done format w.job) looks parts ∧
        (first :: cyclesOf looks).map (·.number) = [1, 2] := by
  intro start w format
  have hinvocation : CommandLine.invocation start.arguments = .ok ⟨.watch w, none, false⟩ := by
    decide +kernel
  have hbegun : (((ofInvocation rewritten.host start ⟨.watch w, none, false⟩).beginWatch
      format w).run unwritten).1.toOption.isSome := by
    decide +kernel
  rcases hbegin : ((ofInvocation rewritten.host start ⟨.watch w, none, false⟩).beginWatch
    format w).run unwritten with ⟨result, x'⟩
  rw [hbegin] at hbegun
  rcases result with _ | ⟨c, v⟩
  · cases hbegun
  have hwatches : Watches rewritten.host start ⟨.watch w, none, false⟩ w c v unwritten x' :=
    ⟨hinvocation, rfl, hbegin⟩
  obtain ⟨status, stop, opening, work, first, answer, told, looks, parts, hrun, hrecorded, -, -,
    htold, -, hdone, -, -, -, hnumbers, -, -, hlimit, -⟩ := watch_loop hwatches 5
  have hstatus : ((run rewritten.host start 5).run unwritten).1 = some 0 := by decide +kernel
  rw [hrun] at hstatus
  obtain rfl : status = some 0 := hstatus
  have htwo : (first :: cyclesOf looks).length = 2 := (hlimit 2 rfl).2.mp rfl
  rw [htwo] at hnumbers
  exact ⟨c, v, x', stop, opening, work, first, told, looks, parts, hwatches, hrecorded, htold,
    hdone, hnumbers⟩

end Session

end GrammarLint
