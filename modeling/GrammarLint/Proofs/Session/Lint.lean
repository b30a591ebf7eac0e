/-
  GrammarLint/Proofs/Session/Lint.lean
  ====================================
  **Linting once, from the command line to the status** — which program is run, what it is
  sent, what is reported and how the session ends, for whatever comes of the run.

  The texts reach the pipeline through a vault under two keys and are read back from there.
  A vault in memory keeps everything, and accepted settings have two different keys, so the
  texts are those of the files and nothing of the settings is left (`lintTexts_run`): linting
  comes to the same as with the standard settings.
-/
import GrammarLint.Proofs.Report.Wording
import GrammarLint.Proofs.Session.Request
import GrammarLint.Proofs.Session.Startup
import GrammarLint.Proofs.Session.Transcript
import GrammarLint.Session.Run

namespace GrammarLint

open Text Sandbox

variable {σ : Type}

/-! ### What comes of running an analyzer -/

namespace Launch

/-- The runs of an analyzer that have no result: it was not started or did not finish, was
    not successful, was not sent its request, or did not write a response.  That it closed
    its input before the end is none of these. -/
inductive Fails : Launch → Prop
  | notStarted (reason : String) : Fails (.notStarted reason)
  | lost (reason : String) : Fails (.lost reason)
  | unsuccessful {status : ExitStatus} (h : status ≠ .code 0) (stdout stderr : ByteArray)
    (delivery : Delivery) : Fails (.ended status stdout stderr delivery)
  | unsent (status : ExitStatus) (stdout stderr : ByteArray) (reason : String) :
    Fails (.ended status stdout stderr (.failed reason))
  | notText (status : ExitStatus) {stdout : ByteArray} (h : String.fromUTF8? stdout = none)
    (stderr : ByteArray) (delivery : Delivery) : Fails (.ended status stdout stderr delivery)
  | notResponse (status : ExitStatus) {stdout : ByteArray} {text : String}
    (h : String.fromUTF8? stdout = some text) {defect : Json.Defect}
    (hdecode : AnalysisResult.decode text = .error defect) (stderr : ByteArray)
    (delivery : Delivery) : Fails (.ended status stdout stderr delivery)

/-- The runs of an analyzer that have a result: a successful one that wrote a response, and
    was sent its request or did not want to read it to the end. -/
inductive Yields : Launch → AnalysisResult → Prop
  | response {stdout : ByteArray} {text : String} (h : String.fromUTF8? stdout = some text)
    {result : AnalysisResult} (hdecode : AnalysisResult.decode text = .ok result)
    (stderr : ByteArray) {delivery : Delivery}
    (hdelivery : delivery = .complete ∨ delivery = .closed) :
    Yields (.ended (.code 0) stdout stderr delivery) result

/-- Exactly the runs without a result fail. -/
theorem fails_iff (launch : Launch) : launch.Fails ↔ ∀ result, ¬ launch.Yields result := by
  constructor
  · rintro hfails result ⟨hread, hdecode, stderr, hdelivery⟩
    cases hfails with
    | unsuccessful hstatus => exact hstatus rfl
    | unsent => simp at hdelivery
    | notText _ hnone =>
      rw [hread] at hnone
      cases hnone
    | notResponse _ hread' hdefect =>
      rw [hread] at hread'
      cases hread'
      rw [hdecode] at hdefect
      cases hdefect
  · intro hyields
    cases launch with
    | notStarted reason => exact .notStarted reason
    | lost reason => exact .lost reason
    | ended status stdout stderr delivery =>
      by_cases hstatus : status = .code 0
      · subst hstatus
        cases hread : String.fromUTF8? stdout with
        | none => exact .notText _ hread stderr delivery
        | some text =>
          cases hdecode : AnalysisResult.decode text with
          | error defect => exact .notResponse _ hread hdecode stderr delivery
          | ok result =>
            have hnot := fun hdelivery => hyields result (.response hread hdecode stderr hdelivery)
            cases delivery with
            | complete => exact absurd (Or.inl rfl) hnot
            | closed => exact absurd (Or.inr rfl) hnot
            | failed reason => exact .unsent _ stdout stderr reason
      · exact .unsuccessful hstatus stdout stderr delivery

theorem answer_eq_ok_iff (name : String) (launch : Launch) (text : String) :
    launch.answer name = .ok text ↔ ∃ stdout stderr delivery,
      launch = .ended (.code 0) stdout stderr delivery ∧ String.fromUTF8? stdout = some text ∧
        (delivery = .complete ∨ delivery = .closed) := by
  constructor
  · intro h
    cases launch with
    | notStarted reason => cases h
    | lost reason => cases h
    | ended status stdout stderr delivery =>
      by_cases hstatus : status = .code 0
      · subst hstatus
        refine ⟨stdout, stderr, delivery, rfl, ?_⟩
        cases delivery with
        | failed reason => cases h
        | complete | closed =>
          cases hread : String.fromUTF8? stdout <;> simp_all [answer, ExitStatus.success, read?]
      · simp [answer, ExitStatus.success, hstatus] at h
  · rintro ⟨stdout, stderr, delivery, rfl, hread, rfl | rfl⟩ <;>
      simp [answer, ExitStatus.success, read?, hread]

/-- The answer of an analyzer is understood as the result of its run. -/
theorem interpret_answer_eq_ok_iff (name : String) (launch : Launch) (result : AnalysisResult) :
    interpret (launch.answer name) = .ok result ↔ launch.Yields result := by
  have hdecoded : interpret (launch.answer name) = .ok result ↔
      ∃ text, launch.answer name = .ok text ∧ AnalysisResult.decode text = .ok result := by
    cases launch.answer name with
    | error e => simp [interpret]
    | ok text =>
      cases hdecode : AnalysisResult.decode text <;> simp [interpret, hdecode, Except.mapError]
  rw [hdecoded]
  constructor
  · rintro ⟨text, hanswer, hdecode⟩
    obtain ⟨stdout, stderr, delivery, rfl, hread, hdelivery⟩ :=
      (answer_eq_ok_iff name launch text).mp hanswer
    exact .response hread hdecode stderr hdelivery
  · rintro ⟨hread, hdecode, stderr, hdelivery⟩
    exact ⟨_, (answer_eq_ok_iff name _ _).mpr ⟨_, stderr, _, rfl, hread, hdelivery⟩, hdecode⟩

/-- What fails although the request was sent fails whatever became of it. -/
theorem Fails.of_sent {status : ExitStatus} {stdout stderr : ByteArray} {delivery : Delivery}
    (h : (ended status stdout stderr delivery).Fails)
    (hsent : delivery = .complete ∨ delivery = .closed) (other : Delivery) :
    (ended status stdout stderr other).Fails := by
  cases h with
  | unsuccessful h => exact .unsuccessful h _ _ _
  | unsent => simp at hsent
  | notText _ h => exact .notText _ h _ _
  | notResponse _ h hdecode => exact .notResponse _ h hdecode _ _

/-- It does not matter whether an analyzer read its input to the end. -/
theorem fails_closed_iff (status : ExitStatus) (stdout stderr : ByteArray) :
    (ended status stdout stderr .closed).Fails ↔ (ended status stdout stderr .complete).Fails :=
  ⟨fun h => h.of_sent (.inr rfl) _, fun h => h.of_sent (.inl rfl) _⟩

end Launch

/-! ### Texts that go through a vault in memory -/

/-- What is kept for two texts under different keys. -/
theorem get?_texts (settings : Settings) (hkeys : settings.grammarKey ≠ settings.codeKey)
    (grammar code : String) :
    let entries := Entries.ofList [(settings.grammarKey, grammar), (settings.codeKey, code)]
    entries.get? settings.grammarKey = some grammar ∧
      entries.get? settings.codeKey = some code := by
  refine ⟨?_, Entries.get?_insert_self _ _ _⟩
  exact (Entries.get?_insert_of_ne _ _ hkeys).trans (Entries.get?_insert_self _ _ _)

/-- The first cycle leaves the settings alone and does not ask for them. -/
theorem Controller.fresh_cycled (settings settings' : Settings) (grammar code : String)
    (answer : Option (Except AnalysisError AnalysisResult)) :
    (fresh settings grammar code).cycled answer =
      let shown := (fresh settings' grammar code).cycled answer
      (shown.1, { shown.2 with settings, debouncer := .new settings.debounceMs }) := by
  rcases answer with _ | _ | _ <;> rfl

namespace Session

variable (s : Session (StateM σ)) (program : Program)

/-- A vault in memory keeps everything. -/
theorem persist_inMemory (key text : String) {v : Vault} (h : v.path = none) (w : σ) :
    ((Controller.persist (s.services program) key text).run v).run w =
      (((), v.holding key text), w) := by
  obtain ⟨_, entries⟩ := v
  obtain rfl := h
  rfl

/-- The analyzer has nothing to do with the vault. -/
theorem consult_vault (snapshot : Snapshot) (v v' : Vault) (w : σ) :
    ((Controller.consult (s.services program) snapshot).run v).run w =
      let consulted := ((Controller.consult (s.services program) snapshot).run v').run w
      ((consulted.1.1, v), consulted.2) := by
  unfold Controller.consult
  cases snapshot.grammar.isEmpty with
  | true => rfl
  | false =>
    simp only [Bool.false_eq_true, if_false, services, run_bind_states, run_lift]
    cases interpret ((program.analyze s.host snapshot.grammar snapshot.code).run w).1 with
    | ok result => rfl
    | error e => rfl

theorem start_inMemory (c : Controller) {v : Vault} (h : v.path = none) (w : σ) :
    ∃ v', ((c.start (s.services program)).run v).run w =
      let starting := Event.starting c.grammar.text.utf8ByteSize c.code.text.utf8ByteSize
      let consulted := ((Controller.consult (s.services program) c.snapshot).run
        (.inMemory .empty)).run ((s.note starting.record).run w).2
      let result := c.cycled consulted.1.1
      ((result, v'), ((s.note result.2.finishedEvent.record).run consulted.2).2) := by
  refine ⟨(v.holding c.settings.grammarKey c.grammar.text).holding c.settings.codeKey c.code.text,
    ?_⟩
  have hlog : ∀ (event : Event) (v : Vault) (w : σ),
      (((s.services program).log event).run v).run w =
        (((), v), ((s.note event.record).run w).2) := fun _ _ _ => rfl
  have hkept : (v.holding c.settings.grammarKey c.grammar.text).path = none := h
  simp only [Controller.start, Controller.runCycle_eq, Controller.attend, map_eq_pure_bind,
    run_bind_states, hlog, persist_inMemory s program _ _ h, persist_inMemory s program _ _ hkept]
  rw [consult_vault s program c.snapshot _ (.inMemory .empty)]
  rfl

theorem restore_texts {settings : Settings} (hkeys : settings.grammarKey ≠ settings.codeKey)
    (grammar code : String) :
    let v := Vault.inMemory
      (.ofList [(settings.grammarKey, grammar), (settings.codeKey, code)])
    (Controller.restore (s.services program) settings).run v =
      pure (Controller.fresh settings grammar code, v) := by
  obtain ⟨hgrammar, hcode⟩ := get?_texts settings hkeys grammar code
  intro v
  have hgrammar' : v.get? settings.grammarKey = some grammar := hgrammar
  have hcode' : v.get? settings.codeKey = some code := hcode
  rw [restore_run, hgrammar', hcode']
  rfl

/-- What linting two texts comes to, whatever the settings are. -/
theorem lintTexts_run (format : Format) (job : Job) {settings : Settings}
    (hkeys : settings.grammarKey ≠ settings.codeKey) (grammar code : String) (w : σ) :
    (s.lintTexts format job settings grammar code).run w =
      let c := Controller.fresh .standard grammar code
      let w₁ := ((s.note (Event.starting grammar.utf8ByteSize code.utf8ByteSize).record).run w).2
      let consulted := ((Controller.consult (s.services job.analyzer) c.snapshot).run
        (.inMemory .empty)).run w₁
      let shown := c.cycled consulted.1.1
      let w₂ := ((s.note shown.2.finishedEvent.record).run consulted.2).2
      (lintStatus shown.1 shown.2.display,
        ((s.announce format job shown.2 shown.1).run w₂).2) := by
  obtain ⟨v', hstart⟩ := s.start_inMemory job.analyzer (Controller.fresh settings grammar code)
    (v := .inMemory (.ofList [(settings.grammarKey, grammar), (settings.codeKey, code)])) rfl w
  simp only [lintTexts, restore_texts s job.analyzer hkeys, pure_bind, run_bind_state, hstart]
  -- The settings are in the pipeline still, but nothing of it that is looked at is of them.
  have hsnapshot : (Controller.fresh settings grammar code).snapshot =
      (Controller.fresh .standard grammar code).snapshot := rfl
  simp only [hsnapshot, Controller.fresh_cycled settings .standard]
  rfl

/-- **Linting does not depend on the settings.** -/
theorem lintTexts_standard (format : Format) (job : Job) {settings : Settings}
    (hkeys : settings.grammarKey ≠ settings.codeKey) (grammar code : String) :
    s.lintTexts format job settings grammar code =
      s.lintTexts format job .standard grammar code := by
  have hstandard : Settings.standard.grammarKey ≠ Settings.standard.codeKey := by decide
  funext w
  exact (s.lintTexts_run format job hkeys grammar code w).trans
    (s.lintTexts_run format job hstandard grammar code w).symm

/-! ### What is done -/

/-- What is shown after the analyzer was consulted about two texts for the first time. -/
def shownFor (grammar code : String) (answer : Option (Except AnalysisError AnalysisResult)) :
    Outcome × Controller :=
  (Controller.fresh .standard grammar code).cycled answer

/-- What is reported then is the report of a first cycle on the two texts. -/
theorem reports_shownFor (format : Format) (job : Job) (grammar code : String)
    (answer : Option (Except AnalysisError AnalysisResult)) :
    let shown := shownFor grammar code answer
    Reports (job.grammar, job.code) (grammar, code) 1 shown.1 shown.2.display format
      (report format job.path shown.2 shown.1) := by
  intro shown
  have hreport := reports_report format job.path
    (Controller.fits_cycled (.fresh .standard grammar code) answer)
  rwa [Controller.cycled_grammar, Controller.cycled_code, Controller.cycled_cycles] at hreport

/-- Linting two texts is a cycle and its report. -/
theorem records_lintTexts (format : Format) (job : Job) {settings : Settings}
    (hkeys : settings.grammarKey ≠ settings.codeKey) (grammar code : String) :
    Records (s.recording.lintTexts format job settings grammar code)
      (s.lintTexts format job settings grammar code) fun status deeds =>
        ∃ answer work, Attended job.analyzer (grammar, code) answer work ∧
          let shown := shownFor grammar code answer
          status = lintStatus shown.1 shown.2.display ∧
            deeds = work ++ (report format job.path shown.2 shown.1).map .printed := by
  have hstandard : Settings.standard.grammarKey ≠ Settings.standard.codeKey := by decide
  rw [lintTexts_standard s format job hkeys, lintTexts_standard s.recording format job hkeys]
  simp only [lintTexts, restore_texts _ job.analyzer hstandard, pure_bind]
  apply Records.bind (s.records_start job.analyzer (Controller.fresh .standard grammar code) _)
  rintro ⟨r, v⟩ work ⟨answer, rfl, hwork⟩
  apply (s.records_announce format job _ _).bind
  rintro _ _ rfl
  apply records_pure
  rw [List.append_nil]
  exact ⟨answer, work, hwork, rfl, rfl⟩

/-! ### From the command line to the status -/

/-- The status of linting, by what the analyzer answered. -/
theorem lintStatus_shownFor (grammar code : String)
    (answer : Option (Except AnalysisError AnalysisResult)) :
    let shown := shownFor grammar code answer
    lintStatus shown.1 shown.2.display =
      match answer with
      | none => 0
      | some (.error _) => 2
      | some (.ok result) => if result.grammar = [] ∧ result.code = [] then 0 else 1 := by
  rcases answer with _ | _ | result
  · rfl
  · rfl
  · show (if (Display.render (some result)).hasFindings then 1 else 0) = _
    rcases hgrammar : result.grammar with _ | ⟨d, ds⟩
    · rcases hcode : result.code with _ | ⟨d, ds⟩
      · simp [Display.render, StageState.ofFindings, Display.hasFindings, hgrammar, hcode,
          Stage.all, Display.stage, StageState.findings]
      · simp [Display.render, StageState.ofFindings, Display.hasFindings, hgrammar, hcode,
          Stage.all, Display.stage, StageState.findings]
    · simp [Display.render, Display.hasFindings, hgrammar, Stage.all, Display.stage,
        StageState.findings]

/-- The status of linting, by the run of the analyzer. -/
theorem lintStatus_eq_iff (grammar code name : String) (launch : Option Launch) :
    let shown := shownFor grammar code (launch.map fun l => interpret (l.answer name))
    let status := lintStatus shown.1 shown.2.display
    (status = 2 ↔ ∃ l ∈ launch, l.Fails) ∧
      (status = 1 ↔ ∃ l ∈ launch, ∃ result, l.Yields result ∧
        (result.grammar ≠ [] ∨ result.code ≠ [])) ∧ status ≤ 2 := by
  simp only [lintStatus_shownFor]
  cases launch with
  | none => simp
  | some l =>
    have hyields := l.interpret_answer_eq_ok_iff name
    have hfails := l.fails_iff
    simp only [Option.map_some, Option.mem_some_iff, exists_eq_left', hfails, ← hyields]
    cases interpret (l.answer name) with
    | error e => simp
    | ok result =>
      by_cases hnone : result.grammar = [] ∧ result.code = []
      · simp [hnone]
      · have hsome : result.grammar ≠ [] ∨ result.code ≠ [] := by
          rw [← not_and_or]
          exact hnone
        simp [hnone, hsome]

/-- A command line that asks for two files to be linted, settings that are accepted for it,
    and texts that are read from the files. -/
structure Lints (host : Host (StateM σ)) (start : Start) (i : Invocation) (job : Job)
    (settings : Settings) (grammar code : String) (w w' : σ) : Prop where
  invocation : CommandLine.invocation start.arguments = .ok i
  order : i.order = .lint job
  read : ∃ w₁ w₂,
    ((ofInvocation host start i).settings job).run w = (.ok settings, w₁) ∧
    ((ofInvocation host start i).source job .grammar).run w₁ = (.ok grammar, w₂) ∧
    ((ofInvocation host start i).source job .code).run w₂ = (.ok code, w')

variable {host : Host (StateM σ)} {start : Start} {i : Invocation} {job : Job}
  {settings : Settings} {grammar code : String} {w w' : σ}

theorem Lints.run_eq (h : Lints host start i job settings grammar code w w') (steps : Nat) :
    (run host start steps).run w =
      (((ofInvocation host start i).lintTexts (formatOf start i) job settings grammar code).run
        w').map some id := by
  obtain ⟨hinvocation, horder, w₁, w₂, hsettings, hgrammar, hcode⟩ := h
  rcases hlint : ((ofInvocation host start i).lintTexts (formatOf start i) job settings grammar
    code).run w' with ⟨status, stop⟩
  simp only [run, hinvocation, carryOut, horder, lint, run_bind_state, hsettings, hgrammar, hcode,
    hlint]
  rfl

/-- Until the texts are read nothing is done that matters. -/
theorem Lints.recorded (h : Lints host start i job settings grammar code w w') :
    ∃ opening, (∀ d ∈ opening, Deed.Opening d) ∧
      Lints host.recording start i job settings grammar code ([], w) (opening, w') := by
  obtain ⟨hinvocation, horder, w₁, w₂, hsettings, hgrammar, hcode⟩ := h
  obtain ⟨k₁, hk₁, hrun₁⟩ := Records.run_eq (within_settings _ job) hsettings []
  obtain ⟨k₂, hk₂, hrun₂⟩ := Records.run_eq (within_source _ job .grammar) hgrammar ([] ++ k₁)
  obtain ⟨k₃, hk₃, hrun₃⟩ := Records.run_eq (within_source _ job .code) hcode ([] ++ k₁ ++ k₂)
  refine ⟨_, ?_, hinvocation, horder, _, _, hrun₁, hrun₂, hrun₃⟩
  intro d hd
  simp only [List.nil_append, List.mem_append] at hd
  rcases hd with (hd | hd) | hd
  · exact hk₁ d hd
  · exact hk₂ d hd
  · exact hk₃ d hd

/-- **Linting, from the command line to the status.**  Let two files be linted with accepted
    settings, and let them have texts.

    The analyzer is run once if there is a grammar, on the request for exactly these two
    texts, and not at all otherwise.  The status is 2 exactly if the run fails, 1 exactly
    if it has a result with findings about the grammar or the code, and 0 otherwise; it
    does not matter whether the analyzer read its input to the end.  What is reported is
    what is shown for these texts and this run, as the report of the first cycle.

    Nothing of this depends on the settings: whatever the command line is that asks to lint
    the same files with the same analyzer, with other settings that are accepted, it comes
    to the same. -/
theorem lint_end_to_end (h : Lints host start i job settings grammar code w w') (steps : Nat) :
    ∃ (status : Nat) (stop : σ) (launch : Option Launch) (opening work : List Deed),
      let answer := launch.map fun l => interpret (l.answer job.analyzer.name)
      let shown := shownFor grammar code answer
      let deeds := opening ++ work ++
        (report (formatOf start i) job.path shown.2 shown.1).map .printed
      (run host start steps).run w = (some status, stop) ∧
      (run host.recording start steps).run ([], w) = (some status, (deeds, stop)) ∧
      (∀ d ∈ opening, d.Opening) ∧ Attended job.analyzer (grammar, code) answer work ∧
      Reports (job.grammar, job.code) (grammar, code) 1 shown.1 shown.2.display (formatOf start i)
        (report (formatOf start i) job.path shown.2 shown.1) ∧
      launches deeds = launch.toList.map (job.analyzer, request grammar code, ·) ∧
      Json.parse Json.stringMap (request grammar code) =
        .ok [("code", code), ("grammar", grammar)] ∧
      (launch.isSome ↔ grammar ≠ "") ∧
      (status = 2 ↔ ∃ l ∈ launch, l.Fails) ∧
      (status = 1 ↔ ∃ l ∈ launch, ∃ result, l.Yields result ∧
        (result.grammar ≠ [] ∨ result.code ≠ [])) ∧
      status ≤ 2 ∧
      (∀ exit stdout stderr, (Launch.ended exit stdout stderr .closed).Fails ↔
        (Launch.ended exit stdout stderr .complete).Fails) ∧
      ∀ {start' i' job' settings' v steps'}, Lints host start' i' job' settings' grammar code v w' →
        ofInvocation host start' i' = ofInvocation host start i →
        formatOf start' i' = formatOf start i → job'.analyzer = job.analyzer →
        job'.path = job.path → (run host start' steps').run v = (some status, stop) := by
  have hkeys : settings.grammarKey ≠ settings.codeKey := by
    obtain ⟨-, -, _, _, hsettings, -⟩ := h
    exact keys_ne_of_settings hsettings
  obtain ⟨opening, hopening, hrecorded⟩ := h.recorded
  obtain ⟨new, ⟨answer, work, hwork, hstatus, rfl⟩, hlint⟩ := records_lintTexts
    (ofInvocation host start i) (formatOf start i) job hkeys grammar code opening w'
  obtain ⟨launch, rfl, hlaunches, hsome⟩ := hwork.launch
  have hrun := h.run_eq steps
  have hrun' := hrecorded.run_eq steps
  obtain ⟨htwo, hone, hle⟩ := lintStatus_eq_iff grammar code job.analyzer.name launch
  rcases hplain : ((ofInvocation host start i).lintTexts (formatOf start i) job settings grammar
    code).run w' with ⟨status, stop⟩
  rw [hplain] at hrun hlint hstatus
  dsimp only at hstatus
  refine ⟨status, stop, launch, opening, work, hrun, ?_, hopening, hwork,
    reports_shownFor (formatOf start i) job grammar code _, ?_, parse_request grammar code, hsome,
    ?_, ?_, ?_, Launch.fails_closed_iff, ?_⟩
  · rw [hrun', List.append_assoc]
    exact congrArg (Prod.map some id) hlint
  · rw [launches_append, launches_append, launches_of_opening hopening, launches_printed, hlaunches,
      List.nil_append, List.append_nil]
  · rw [hstatus]
    exact htwo
  · rw [hstatus]
    exact hone
  · rw [hstatus]
    exact hle
  · intro start' i' job' settings' v steps' hother hsession hformat hanalyzer hpath
    have hkeys' : settings'.grammarKey ≠ settings'.codeKey := by
      obtain ⟨-, -, _, _, hsettings, -⟩ := hother
      exact keys_ne_of_settings hsettings
    have hsame :
        (ofInvocation host start i).lintTexts (formatOf start i) job' settings' grammar code =
          (ofInvocation host start i).lintTexts (formatOf start i) job settings grammar code := by
      rw [lintTexts_standard _ _ _ hkeys', lintTexts_standard _ _ _ hkeys]
      simp only [lintTexts, announce, hanalyzer, hpath]
    rw [hother.run_eq, hsession, hformat, hsame, hplain]
    rfl

/-- A machine whose analyzer does not read its input and complains about the grammar. -/
def hasty : Machine where
  run _ disk _ _ :=
    (.ended (.code 0) "[[[1,1,\"no rule\"]],[]]".toUTF8 "".toUTF8 .closed, disk)
  fate _ _ := .done

/-- Two files, and settings with keys of their own. -/
def configured : World :=
  .ofDisk (((Disk.empty.put ["", "g"] (.file "A".toUTF8)).put ["", "c"] (.file "x".toUTF8)).put
    ["", "s"] (.file "\x7b\"debounceMs\": 5, \"grammarKey\": \"k\"\x7d".toUTF8))

/-- **A finding about the grammar** makes the status 1, also if the analyzer did not read its
    input, and with any settings. -/
theorem lint_end_to_end_hasty :
    let start : Start :=
      ⟨["lint", "g", "c", "--analyzer", "a", "--config", "s"], none, false⟩
    let job : Job := ⟨"g", "c", ⟨"a", []⟩, some "s", none⟩
    ∃ w stop deeds,
      Lints hasty.host start ⟨.lint job, none, false⟩ job ⟨5, "k", "codeText"⟩ "A" "x" configured
          w ∧
        (run hasty.host start 0).run configured = (some 1, stop) ∧
        (run hasty.host.recording start 0).run ([], configured) = (some 1, (deeds, stop)) ∧
        (launches deeds).map (fun l => (l.1, l.2.1)) =
          [(job.analyzer, "\x7b\"code\":\"x\",\"grammar\":\"A\"\x7d")] := by
  intro start job
  have hsettings : (((ofInvocation hasty.host start ⟨.lint job, none, false⟩).settings job).run
      configured).1 = .ok ⟨5, "k", "codeText"⟩ := by decide +kernel
  generalize hw₁ : (((ofInvocation hasty.host start ⟨.lint job, none, false⟩).settings job).run
    configured).2 = w₁
  have hgrammar : (((ofInvocation hasty.host start ⟨.lint job, none, false⟩).source job
      .grammar).run w₁).1 = .ok "A" := by
    rw [← hw₁]
    decide +kernel
  generalize hw₂ : (((ofInvocation hasty.host start ⟨.lint job, none, false⟩).source job
    .grammar).run w₁).2 = w₂
  have hcode : (((ofInvocation hasty.host start ⟨.lint job, none, false⟩).source job
      .code).run w₂).1 = .ok "x" := by
    rw [← hw₂, ← hw₁]
    decide +kernel
  have hlints : Lints hasty.host start ⟨.lint job, none, false⟩ job ⟨5, "k", "codeText"⟩ "A" "x"
      configured _ :=
    ⟨by decide +kernel, rfl, w₁, w₂, Prod.ext hsettings hw₁, Prod.ext hgrammar hw₂,
      Prod.ext hcode rfl⟩
  obtain ⟨status, stop, launch, opening, work, hrun, hrecorded, -, -, -, hlaunches, -, hsome, -⟩ :=
    lint_end_to_end hlints 0
  have hstatus : ((run hasty.host start 0).run configured).1 = some 1 := by decide +kernel
  rw [hrun] at hstatus
  obtain rfl : status = 1 := Option.some.inj hstatus
  obtain ⟨l, rfl⟩ := Option.isSome_iff_exists.mp (hsome.mpr (by decide))
  refine ⟨_, stop, _, hlints, hrun, hrecorded, ?_⟩
  have hrequest : request "A" "x" = "\x7b\"code\":\"x\",\"grammar\":\"A\"\x7d" := by decide +kernel
  rw [hlaunches, hrequest]
  rfl

end Session

end GrammarLint
