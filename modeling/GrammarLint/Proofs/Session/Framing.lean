/-
  GrammarLint/Proofs/Session/Framing.lean
  =======================================
  **What a program reads of a session** — the standard output of a session, for all command
  lines that are carried out, on all machines.

  Only reports are written to the standard output: a session logs and complains elsewhere.
  So what is done comes apart into the cycles, each with its report behind it, and deeds
  that are `Silent`.  `Reported` says this of a list of deeds, with the number of cycles
  that went before, so that it holds of two parts one after the other (`Reported.append`)
  and of a session as it is put together.

  A report in JSON is one line.  The lines come apart again at their ends, and each of them
  is read back.
-/
import GrammarLint.Proofs.Report.Reading
import GrammarLint.Proofs.Session.Loop

namespace GrammarLint

open Json Sandbox

variable {σ α β : Type}

/-! ### The standard output -/

namespace Deed

def chunk? : Deed → Option Chunk
  | .printed chunk => some chunk
  | _ => none

/-- The analyzer is not run, and nothing is written to the standard output. -/
def Silent (d : Deed) : Prop := d.launch? = none ∧ ∀ chunk ∈ d.chunk?, chunk.stream = .err

theorem Minor.silent {d : Deed} (h : d.Minor) : d.Silent := by
  refine ⟨h.launch?, ?_⟩
  intro chunk hchunk
  cases h <;> cases hchunk
  rfl

theorem Opening.silent {d : Deed} (h : d.Opening) : d.Silent := by
  cases h with
  | minor h => exact h.silent
  | read path answer => exact ⟨rfl, fun chunk hchunk => nomatch hchunk⟩

end Deed

/-- What is written to the standard output, piece by piece. -/
def printed (deeds : List Deed) : List Chunk :=
  (deeds.filterMap (·.chunk?)).filter (·.stream == .out)

/-- What a program reads that is given the standard output of a session. -/
def stdout (deeds : List Deed) : List Char :=
  (Stream.out.contents (deeds.filterMap (·.chunk?))).toList

theorem stdout_eq_flatMap (deeds : List Deed) :
    stdout deeds = (printed deeds).flatMap (·.text.toList) := by
  simp [stdout, printed, Stream.contents, String.toList_join, List.flatMap_map]

theorem printed_append (k l : List Deed) : printed (k ++ l) = printed k ++ printed l := by
  simp [printed]

theorem printed_silent {deeds : List Deed} (h : ∀ d ∈ deeds, d.Silent) : printed deeds = [] := by
  rw [printed, List.filter_eq_nil_iff]
  intro chunk hchunk
  obtain ⟨d, hd, hsome⟩ := List.mem_filterMap.mp hchunk
  rw [(h d hd).2 chunk hsome]
  decide

theorem printed_map (chunks : List Chunk) :
    printed (chunks.map .printed) = chunks.filter (·.stream == .out) := by
  have hchunks : (chunks.map Deed.printed).filterMap (·.chunk?) = chunks := by
    rw [List.filterMap_map]
    exact List.filterMap_some
  rw [printed, hchunks]

theorem Attended.printed_eq {program : Program} {texts : String × String}
    {answer : Option (Except AnalysisError AnalysisResult)} {work : List Deed}
    (h : Attended program texts answer work) : printed work = [] := by
  obtain ⟨hbefore, hasked, hafter⟩ := h
  rw [printed_append, printed_append, printed_silent fun d hd => (hbefore d hd).silent,
    printed_silent fun d hd => (hafter d hd).silent]
  cases hasked <;> rfl

/-! ### Cycles and their reports -/

/-- What a program is told about a cycle. -/
def Cycle.told (cycle : Cycle) : CycleReport :=
  .of cycle.number cycle.outcome cycle.pipeline.display

/-- **The cycles of a session and what is done for them**, behind some number of cycles.
    For a cycle the analyzer is consulted about the texts of the pipeline, what it answers
    makes the next pipeline of it, and then there is the report.  Nothing else that is done
    runs the analyzer or goes to the standard output.

    The number of cycles before is the one that the pipeline has counted itself, so there is
    no room between two reports for a cycle that was not reported. -/
inductive Reported (format : Format) (job : Job) : Nat → List Cycle → List Deed → Prop
  | idle {n : Nat} {rest : List Deed} (hrest : ∀ d ∈ rest, d.Silent) :
    Reported format job n [] rest
  | cycle {c : Controller} {answer : Option (Except AnalysisError AnalysisResult)}
    {cycle : Cycle} {cycles : List Cycle} {before work rest : List Deed}
    (hbefore : ∀ d ∈ before, d.Silent)
    (hwork : Attended job.analyzer (c.grammar.text, c.code.text) answer work)
    (hcycle : cycle = ⟨(c.cycled answer).2, (c.cycled answer).1⟩)
    (more : Reported format job (c.cycles + 1) cycles rest) :
    Reported format job c.cycles (cycle :: cycles)
      (before ++ (work ++ ((cycle.report format job.path).map .printed ++ rest)))

namespace Reported

variable {format : Format} {job : Job} {n : Nat} {cycles cycles' : List Cycle}
  {k l : List Deed}

theorem prepend (h : Reported format job n cycles l) (hk : ∀ d ∈ k, d.Silent) :
    Reported format job n cycles (k ++ l) := by
  have hboth : ∀ {before : List Deed}, (∀ d ∈ before, d.Silent) →
      ∀ d ∈ k ++ before, d.Silent := by
    intro before hbefore d hd
    exact (List.mem_append.mp hd).elim (hk d) (hbefore d)
  cases h with
  | idle hrest => exact .idle (hboth hrest)
  | cycle hbefore hwork hcycle more =>
    rw [← List.append_assoc]
    exact .cycle (hboth hbefore) hwork hcycle more

/-- What is done in one part after another. -/
theorem append (hk : Reported format job n cycles k)
    (hl : Reported format job (n + cycles.length) cycles' l) :
    Reported format job n (cycles ++ cycles') (k ++ l) := by
  induction hk with
  | idle hrest => exact hl.prepend hrest
  | @cycle c _ _ cycles _ _ _ hbefore hwork hcycle more ih =>
    have hcount : c.cycles + 1 + cycles.length = c.cycles + (cycles.length + 1) := by omega
    rw [List.length_cons, ← hcount] at hl
    rw [List.cons_append, List.append_assoc, List.append_assoc, List.append_assoc]
    exact .cycle hbefore hwork hcycle (ih hl)

/-- Cycles are numbered one by one. -/
theorem numbers (h : Reported format job n cycles l) :
    cycles.map (·.number) = List.range' (n + 1) cycles.length := by
  induction h with
  | idle => rfl
  | cycle hbefore hwork hcycle more ih =>
    rw [List.map_cons, ih, List.length_cons, List.range'_succ, hcycle, Cycle.number,
      Controller.cycled_cycles]

/-- **The standard output is made of the reports.** -/
theorem printed_eq (h : Reported format job n cycles l) :
    printed l = cycles.flatMap fun cycle =>
      (cycle.report format job.path).filter (·.stream == .out) := by
  induction h with
  | idle hrest => exact printed_silent hrest
  | cycle hbefore hwork hcycle more ih =>
    rw [printed_append, printed_append, printed_append, printed_silent hbefore,
      hwork.printed_eq, printed_map, ih]
    rfl

theorem printed_json (h : Reported .json job n cycles l) :
    printed l = cycles.map fun cycle => ⟨.out, String.ofList cycle.told.written ++ "\n"⟩ := by
  rw [h.printed_eq, ← List.flatMap_pure_eq_map]
  rfl

/-- Reports for a program are lines. -/
theorem stdout_json (h : Reported .json job n cycles l) :
    stdout l = (cycles.map (·.told.written)).flatMap (· ++ ['\n']) := by
  simp [stdout_eq_flatMap, h.printed_json, List.flatMap_map]

end Reported

/-- Cycles with their reports, and what they come to together with what was there before. -/
def Reporting (format : Format) (job : Job) (n : Nat) (Q : α → Nat → Prop) (a : α)
    (deeds : List Deed) : Prop :=
  ∃ cycles, Reported format job n cycles deeds ∧ Q a (n + cycles.length)

section Laws

variable {format : Format} {job : Job} {n : Nat} {Q : α → Nat → Prop} {R : β → Nat → Prop}

theorem reporting_silent {a : α} {deeds : List Deed} (h : ∀ d ∈ deeds, d.Silent) (hQ : Q a n) :
    Reporting format job n Q a deeds :=
  ⟨[], .idle h, hQ⟩

theorem Reported.andThen {cycles : List Cycle} {k l : List Deed} {b : β}
    (hk : Reported format job n cycles k)
    (hl : Reporting format job (n + cycles.length) R b l) :
    Reporting format job n R b (k ++ l) := by
  obtain ⟨cycles', hl, hR⟩ := hl
  refine ⟨cycles ++ cycles', hk.append hl, ?_⟩
  rwa [List.length_append, ← Nat.add_assoc]

/-- What two computations report one after the other. -/
theorem Records.bindReporting {x' : StateM (List Deed × σ) α} {x : StateM σ α}
    {f' : α → StateM (List Deed × σ) β} {f : α → StateM σ β}
    (hx : Records x' x (Reporting format job n Q))
    (hf : ∀ a m, Q a m → Records (f' a) (f a) (Reporting format job m R)) :
    Records (x' >>= f') (x >>= f) (Reporting format job n R) := by
  apply hx.bind
  rintro a k ⟨cycles, hk, hQ⟩
  exact (hf a _ hQ).mono fun _ _ => hk.andThen

theorem RecordsIn.bindReporting {x' : StateT Vault (StateM (List Deed × σ)) α}
    {x : StateT Vault (StateM σ) α} {f' : α → StateT Vault (StateM (List Deed × σ)) β}
    {f : α → StateT Vault (StateM σ) β} (hx : RecordsIn x' x (Reporting format job n Q))
    (hf : ∀ a m, Q a m → RecordsIn (f' a) (f a) (Reporting format job m R)) :
    RecordsIn (x' >>= f') (x >>= f) (Reporting format job n R) := by
  apply hx.bind
  rintro a k ⟨cycles, hk, hQ⟩
  exact (hf a _ hQ).mono fun _ _ => hk.andThen

end Laws

namespace Order

/-- The files and the analyzer of an order. -/
def job : Order → Job
  | .lint job => job
  | .watch w => w.job

/-- **How many cycles there are** when an order was carried out: none if there was trouble,
    one for linting, and at least one for watching, which is over when there are enough. -/
def Counted : Order → Except Trouble (Option Nat) → Nat → Prop
  | _, .error _, m => m = 0
  | .lint _, .ok _, m => m = 1
  | .watch w, .ok status, m => 1 ≤ m ∧ (status.isSome ↔ ∃ n ∈ w.cycles, n ≤ m)

end Order

namespace Session

variable (s : Session (StateM σ)) (format : Format)

theorem silent_nil : ∀ d ∈ ([] : List Deed), d.Silent := fun _ h => nomatch h

theorem reporting_within {x' : StateM (List Deed × σ) α} {x : StateM σ α}
    (h : Within Deed.Opening x' x) (job : Job) (n : Nat) :
    Records x' x (Reporting format job n fun _ m => m = n) := by
  apply Records.mono h
  intro a deeds hdeeds
  exact reporting_silent (fun d hd => (hdeeds d hd).silent) rfl

/-- A session that does not begin has no cycles any more. -/
theorem reporting_trouble (job : Job) (n : Nat) {Q : Except Trouble α → Nat → Prop}
    {trouble : Trouble} (h : Q (.error trouble) n) :
    Records (pure (.error trouble) : StateM (List Deed × σ) (Except Trouble α))
      (pure (.error trouble) : StateM σ (Except Trouble α)) (Reporting format job n Q) :=
  records_pure (reporting_silent silent_nil h)

/-! ### Cycles -/

/-- A cycle, and its report behind it. -/
theorem reported_cycleOf {job : Job} {c c' : Controller} {outcome : Outcome} {work : List Deed}
    (h : CycleOf job.analyzer c (outcome, c') work) :
    Reported format job c.cycles [⟨c', outcome⟩]
      (work ++ (report format job.path c' outcome).map .printed) ∧ c'.cycles = c.cycles + 1 := by
  obtain ⟨answer, hr, hwork⟩ := h
  have hcycle : (⟨c', outcome⟩ : Cycle) = ⟨(c.cycled answer).2, (c.cycled answer).1⟩ := by
    rw [← hr]
  have hreported : Reported format job c.cycles [⟨c', outcome⟩] ([] ++ (work ++ (_ ++ []))) :=
    .cycle silent_nil hwork hcycle (.idle silent_nil)
  rw [List.nil_append, List.append_nil] at hreported
  refine ⟨hreported, ?_⟩
  rw [← Controller.cycled_cycles c answer, ← hr]

theorem reporting_firstCycle (job : Job) (settings : Settings) :
    RecordsIn (s.recording.firstCycle format job settings) (s.firstCycle format job settings)
      (Reporting format job 0 fun c m => c.cycles = 1 ∧ m = 1) := by
  unfold firstCycle
  apply (s.records_restore job.analyzer settings).bind
  rintro c _ ⟨rfl, grammar, code, rfl⟩
  apply RecordsIn.bind (s.records_start job.analyzer (Controller.fresh settings grammar code))
  rintro ⟨outcome, c'⟩ work hwork
  apply RecordsIn.bind (s.records_announce format job c' outcome).lift
  rintro _ _ rfl
  apply recordsIn_pure
  rw [List.append_nil]
  obtain ⟨hreported, hcount⟩ := reported_cycleOf format hwork
  exact ⟨_, hreported, hcount, rfl⟩

theorem silent_readings {job : Job} {answer : Stage → Except FileError ByteArray}
    {aside : Stage → List Deed} (haside : ∀ stage, ∀ d ∈ aside stage, d.Minor) :
    ∀ d ∈ readings job answer aside, d.Silent := by
  have hone : ∀ path stage, ∀ d ∈ Deed.read path (answer stage) :: aside stage, d.Silent := by
    intro path stage d hd
    rcases List.mem_cons.mp hd with rfl | hd
    · exact (Deed.Opening.read _ _).silent
    · exact (haside stage d hd).silent
  intro d hd
  exact (List.mem_append.mp hd).elim (hone _ _ d) (hone _ _ d)

/-- **A look has one report if it has a cycle**, and none otherwise. -/
theorem reporting_watchStep (w : WatchJob) (c : Controller) :
    RecordsIn (s.recording.watchStep format w c) (s.watchStep format w c)
      (Reporting format w.job c.cycles fun c' m => c'.cycles = m) := by
  have hrereads : RecordsIn
      (s.recording.reread w.job .grammar c >>= s.recording.reread w.job .code)
      (s.reread w.job .grammar c >>= s.reread w.job .code)
      (Reporting format w.job c.cycles fun c₂ m => c₂.cycles = m) := by
    apply (s.records_rereads w.job c).mono
    rintro c₂ _ ⟨answer, aside, c₁, rfl, haside, hgrammar, hcode⟩
    exact reporting_silent (silent_readings haside) (hcode.cycles.trans hgrammar.cycles)
  -- That there is a cycle is not enough here: it is to be made of what the analyzer answered,
  -- and this is known where the poll is.
  have hnow := (records_recorded .told s.host.now).lift
  have htold : ∀ now, (Deed.told now).Silent := fun now => (Deed.Minor.told now).silent
  unfold watchStep
  rw [← bind_assoc, ← bind_assoc]
  apply hrereads.bindReporting
  rintro c₂ _ rfl
  apply hnow.bind
  rintro now _ rfl
  apply (s.records_poll w.job.analyzer c₂ now).bind
  rintro _ work (_ | @⟨hpending, result, _, hwork⟩)
  · apply hnow.bind
    rintro later _ rfl
    have hslept := records_recorded (fun _ => .slept (pause w c₂ later))
      (s.host.sleep (pause w c₂ later))
    apply hslept.lift.bind
    rintro _ _ rfl
    apply recordsIn_pure
    refine reporting_silent ?_ rfl
    intro d hd
    simp only [List.append_nil, List.nil_append, List.cons_append, List.mem_cons,
      List.not_mem_nil, or_false] at hd
    rcases hd with rfl | rfl | rfl
    · exact htold now
    · exact htold later
    · exact ⟨rfl, fun chunk hchunk => nomatch hchunk⟩
  · apply (s.records_announce format w.job _ _).lift.bind
    rintro _ _ rfl
    apply recordsIn_pure
    rw [List.append_nil]
    have hcycle : CycleOf w.job.analyzer c₂.disarmed (c₂.disarmed.cycled result) work :=
      ⟨result, rfl, hwork⟩
    obtain ⟨hreported, hcount⟩ := reported_cycleOf format hcycle
    refine ⟨_, hreported.prepend ?_, hcount⟩
    intro d hd
    rw [List.mem_singleton.mp hd]
    exact htold now

theorem watchedEnough_iff (w : WatchJob) (c : Controller) :
    watchedEnough w c = true ↔ ∃ n ∈ w.cycles, n ≤ c.cycles := by
  unfold watchedEnough
  cases w.cycles <;> simp

/-- Looking at the files goes on with the cycles that there were, and is over when there are
    enough of them. -/
theorem reporting_watchOn (w : WatchJob) (steps : Nat) (c : Controller) :
    RecordsIn (s.recording.watchOn format w steps c) (s.watchOn format w steps c)
      (Reporting format w.job c.cycles fun result m =>
        result.isSome ↔ ∃ n ∈ w.cycles, n ≤ m) := by
  induction steps generalizing c with
  | zero =>
    apply recordsIn_pure
    refine reporting_silent silent_nil ?_
    rw [← watchedEnough_iff]
    cases watchedEnough w c <;> simp
  | succ steps ih =>
    unfold watchOn
    by_cases henough : watchedEnough w c
    · simp only [if_pos henough]
      apply recordsIn_pure
      refine reporting_silent silent_nil ?_
      rw [← watchedEnough_iff, henough]
      rfl
    · simp only [if_neg henough]
      apply (s.reporting_watchStep format w c).bindReporting
      rintro c₁ _ rfl
      exact ih c₁

/-! ### Sessions -/

theorem reporting_beginWatch (w : WatchJob) :
    Records (s.recording.beginWatch format w) (s.beginWatch format w)
      (Reporting format w.job 0 fun result m =>
        match result with
        | .error _ => m = 0
        | .ok (c, _) => c.cycles = 1 ∧ m = 1) := by
  unfold beginWatch
  apply (reporting_within format (s.within_settings w.job) w.job 0).bindReporting
  rintro (_ | settings) _ rfl
  · exact reporting_trouble format w.job 0 rfl
  apply (reporting_within format (s.within_openVault w.state) w.job 0).bindReporting
  rintro (_ | v₀) _ rfl
  · exact reporting_trouble format w.job 0 rfl
  apply (reporting_within format (s.within_adopt w.job settings .grammar v₀) w.job 0).bindReporting
  rintro (_ | v₁) _ rfl
  · exact reporting_trouble format w.job 0 rfl
  apply (reporting_within format (s.within_adopt w.job settings .code v₁) w.job 0).bindReporting
  rintro (_ | v₂) _ rfl
  · exact reporting_trouble format w.job 0 rfl
  apply Records.bind (s.reporting_firstCycle format w.job settings v₂)
  rintro ⟨c, v⟩ deeds hdeeds
  apply records_pure
  rw [List.append_nil]
  exact hdeeds

theorem reporting_watch (w : WatchJob) (steps : Nat) :
    Records (s.recording.watch format w steps) (s.watch format w steps)
      (Reporting format w.job 0 (Order.watch w).Counted) := by
  unfold watch
  apply (s.reporting_beginWatch format w).bindReporting
  rintro (_ | ⟨c, v⟩) m hbegun
  · exact reporting_trouble format w.job m hbegun
  · obtain ⟨hone, rfl⟩ := hbegun
    have hon := s.reporting_watchOn format w steps c v
    rw [hone] at hon
    apply hon.bind
    rintro ⟨result, v'⟩ deeds ⟨cycles, hreported, hover⟩
    apply records_pure
    rw [List.append_nil]
    refine ⟨cycles, hreported, Nat.le_add_right 1 _, ?_⟩
    rwa [Option.isSome_map]

theorem reporting_lintTexts (job : Job) (settings : Settings) (grammar code : String) :
    Records (s.recording.lintTexts format job settings grammar code)
      (s.lintTexts format job settings grammar code)
      (Reporting format job 0 fun _ m => m = 1) := by
  simp only [lintTexts, restore_run, pure_bind]
  apply Records.bind (s.records_start job.analyzer _ _)
  rintro ⟨⟨outcome, c'⟩, v⟩ work hwork
  apply (s.records_announce format job c' outcome).bind
  rintro _ _ rfl
  apply records_pure
  rw [List.append_nil]
  exact ⟨_, (reported_cycleOf format hwork).1, rfl⟩

theorem reporting_lint (job : Job) :
    Records (s.recording.lint format job) (s.lint format job)
      (Reporting format job 0 fun result => (Order.lint job).Counted (result.map some)) := by
  unfold lint
  apply (reporting_within format (s.within_settings job) job 0).bindReporting
  rintro (_ | settings) _ rfl
  · exact reporting_trouble format job 0 rfl
  apply (reporting_within format (s.within_source job .grammar) job 0).bindReporting
  rintro (_ | grammar) _ rfl
  · exact reporting_trouble format job 0 rfl
  apply (reporting_within format (s.within_source job .code) job 0).bindReporting
  rintro (_ | code) _ rfl
  · exact reporting_trouble format job 0 rfl
  apply (s.reporting_lintTexts format job settings grammar code).bindReporting
  rintro status _ rfl
  exact records_pure (reporting_silent silent_nil rfl)

theorem reporting_carryOut (order : Order) (steps : Nat) :
    Records (s.recording.carryOut format order steps) (s.carryOut format order steps)
      (Reporting format order.job 0 order.Counted) := by
  cases order with
  | lint job =>
    apply (s.reporting_lint format job).bindReporting
    intro result m hcounted
    exact records_pure (reporting_silent silent_nil hcounted)
  | watch w => exact s.reporting_watch format w steps

/-! ### From the command line to the lines -/

section Run

variable {host : Host (StateM σ)} {start : Start} {i : Invocation}

theorem records_fail (trouble : Trouble) :
    Records (fail host.recording trouble) (fail host trouble) fun _ deeds =>
      ∀ d ∈ deeds, d.Silent := by
  apply (records_recorded (fun _ => .printed ⟨.err, trouble.message⟩)
    (host.write .err trouble.message)).bind
  rintro _ _ rfl
  apply records_pure
  intro d hd
  rw [List.mem_singleton.mp hd]
  refine ⟨rfl, ?_⟩
  rintro _ ⟨⟩
  rfl

/-- What is done for a command line is what is done to carry it out, and a complaint if there
    was trouble. -/
theorem reported_run (hinvocation : CommandLine.invocation start.arguments = .ok i)
    (steps : Nat) (w : σ) :
    ∃ deeds cycles,
      (run host.recording start steps).run ([], w) =
        (((run host start steps).run w).1, (deeds, ((run host start steps).run w).2)) ∧
      Reported (formatOf start i) i.order.job 0 cycles deeds ∧
      i.order.Counted (((ofInvocation host start i).carryOut (formatOf start i) i.order
        steps).run w).1 cycles.length := by
  have hcarried := (ofInvocation host start i).reporting_carryOut (formatOf start i) i.order steps
  rcases hplain : ((ofInvocation host start i).carryOut (formatOf start i) i.order steps).run w
    with ⟨result, s₁⟩
  obtain ⟨deeds, ⟨cycles, hreported, hcounted⟩, hrecorded⟩ := hcarried.run_eq hplain []
  rw [Nat.zero_add] at hcounted
  rw [List.nil_append] at hrecorded
  have hrecording : ofInvocation host.recording start i =
      (ofInvocation host start i).recording := rfl
  simp only [run, hinvocation, run_bind_state, hplain, hrecording, hrecorded]
  cases result with
  | ok status => exact ⟨deeds, cycles, rfl, hreported, hcounted⟩
  | error trouble =>
    obtain ⟨complaint, hsilent, hfail⟩ := @records_fail _ host trouble deeds s₁
    dsimp only
    rw [run_bind_state, hfail]
    refine ⟨deeds ++ complaint, cycles, rfl, ?_, hcounted⟩
    have hboth := hreported.append (.idle hsilent)
    rwa [List.append_nil] at hboth

/-- **One line for each report, one report for each cycle.**  Whatever is in a report, it is
    written as one object without any controls, and is read back as it was; so no two
    reports are written alike, nor are two displays.

    Let a command line be carried out, with reports for a program.  Whatever the files are,
    whatever the clock says and whatever comes of the analyzer, what is done comes apart
    into cycles with their reports and deeds that are silent.  The cycles are numbered from
    one on: there is one of them for linting, and at least one for watching, unless there
    was trouble before.  The standard output, split at the ends of lines, is one report for
    each of these cycles, in their order, and nothing behind the last one.  A report tells
    the number of its cycle, how it ended, and why if it failed, and what is shown then. -/
theorem reports_framed (hinvocation : CommandLine.invocation start.arguments = .ok i)
    (hjson : formatOf start i = .json) (steps : Nat) (w : σ) :
    (∀ r : CycleReport, Printable r.written ∧ ObjectText r.written r.members ∧
      parse CycleReport.reader (String.ofList r.written) = .ok r) ∧
    Function.Injective CycleReport.written ∧ Function.Injective Display.written ∧
    ∃ (status : Option Nat) (stop : σ) (deeds : List Deed) (cycles : List Cycle),
      (run host start steps).run w = (status, stop) ∧
      (run host.recording start steps).run ([], w) = (status, (deeds, stop)) ∧
      Reported .json i.order.job 0 cycles deeds ∧
      i.order.Counted (((ofInvocation host start i).carryOut .json i.order steps).run w).1
        cycles.length ∧
      cycles.map (·.number) = List.range' 1 cycles.length ∧
      (∀ cycle ∈ cycles,
        Tells cycle.number cycle.pipeline.display cycle.outcome cycle.told) ∧
      (stdout deeds).splitOn '\n' = cycles.map (·.told.written) ++ [[]] := by
  refine ⟨?_, CycleReport.roundTrip.injective, Display.roundTrip.injective, ?_⟩
  · intro r
    exact ⟨r.printable_written, objectText_object _, CycleReport.roundTrip.back r⟩
  · obtain ⟨deeds, cycles, hrecorded, hreported, hcounted⟩ :=
      @reported_run _ host _ _ hinvocation steps w
    rw [hjson] at hreported hcounted
    refine ⟨_, _, deeds, cycles, rfl, hrecorded, hreported, hcounted, hreported.numbers,
      fun cycle _ => tells_of cycle.number cycle.outcome cycle.pipeline.display, ?_⟩
    rw [hreported.stdout_json]
    apply splitOn_lines
    intro line hline
    obtain ⟨cycle, -, rfl⟩ := List.mem_map.mp hline
    exact cycle.told.printable_written.newline_not_mem

/-- A machine whose analyzer has a finding of two lines and a quote. -/
def quoting : Machine :=
  { rewritten with
    run := fun _ disk _ _ =>
      (.ended (.code 0) "[[[1,1,\"a\\n\\\"b\"]],[]]".toUTF8 "".toUTF8 .complete, disk) }

/-- **Two cycles, two lines**, although the finding has two lines itself. -/
theorem reports_framed_quoting :
    let start : Start := ⟨["watch", "g", "c", "--analyzer", "a", "--cycles", "2"], none, false⟩
    let w : WatchJob := ⟨⟨"g", "c", ⟨"a", []⟩, none, none⟩, none, 100, some 2⟩
    let line (number : String) : String :=
      "\x7b\"cycle\":" ++ number ++ ",\"outcome\":\"rendered\",\"state\":\x7b\"grammar\":" ++
        "\x7b\"status\":\"invalid\",\"diagnostics\":[\x7b\"ln\":1,\"col\":1," ++
        "\"msg\":\"a\\n\\\"b\"\x7d]\x7d,\"code\":\x7b\"status\":\"empty\"\x7d," ++
        "\"ast\":\"\",\"astOptimized\":\"\"\x7d\x7d"
    ∃ status stop deeds cycles,
      (run quoting.host.recording start 5).run ([], unwritten) = (status, (deeds, stop)) ∧
        Reported .json w.job 0 cycles deeds ∧ cycles.map (·.number) = [1, 2] ∧
        printed deeds = [⟨.out, line "1" ++ "\n"⟩, ⟨.out, line "2" ++ "\n"⟩] ∧
        (stdout deeds).splitOn '\n' = cycles.map (·.told.written) ++ [[]] := by
  intro start w line
  have hinvocation : CommandLine.invocation start.arguments = .ok ⟨.watch w, none, false⟩ := by
    decide +kernel
  have hjson : formatOf start ⟨.watch w, none, false⟩ = .json := rfl
  obtain ⟨-, -, -, status, stop, deeds, cycles, -, hrecorded, hreported, -, hnumbers, -, hlines⟩ :=
    @reports_framed _ quoting.host start _ hinvocation hjson 5 unwritten
  have hprinted : printed ((run quoting.host.recording start 5).run ([], unwritten)).2.1 =
      [⟨.out, line "1" ++ "\n"⟩, ⟨.out, line "2" ++ "\n"⟩] := by decide +kernel
  rw [hrecorded] at hprinted
  have htwo : cycles.length = 2 := by
    have hlength := congrArg List.length (hreported.printed_json.symm.trans hprinted)
    simpa using hlength
  rw [htwo] at hnumbers
  exact ⟨status, stop, deeds, cycles, hrecorded, hreported, hnumbers, hprinted, hlines⟩

end Run

end Session

end GrammarLint
