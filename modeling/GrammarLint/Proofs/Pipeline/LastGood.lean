/-
  GrammarLint/Proofs/Pipeline/LastGood.lean
  =========================================
  **What is shown is the last good result** — after any operations, whatever the analyzer
  answered and whether or not the texts could be stored.

  `Services.hearing` are services that write down the raw answers of the analyzer and are
  the given ones otherwise.  The answers belong to the cycles that began with a grammar, in
  their order (`resultsOf`), and the last cycle that did not fail says what is shown
  (`shown`).  The induction is on the operations and goes through `react`: an operation
  either runs a cycle, which has one result more, or leaves the display alone.

  A cycle that fails is one that counts itself and its call and changes nothing else, so
  the next one comes out as it would have without it (`runCycle_after_failure`).
-/
import GrammarLint.Proofs.Pipeline.Calls

namespace GrammarLint

variable {σ : Type}

/-! ### Writing down the answers -/

/-- The raw answers of an analyzer, in the order of its calls. -/
abbrev Answers := List (Except AnalyzerError String)

/-- A computation that leaves the answers that are written down as they are. -/
def unheard {α : Type} (x : StateM σ α) : StateM (Answers × σ) α :=
  fun (heard, s) => ((x.run s).1, (heard, (x.run s).2))

/-- Services that write down what the analyzer answers. -/
def Services.hearing (services : Services (StateM σ)) : Services (StateM (Answers × σ)) where
  analyze grammar code := fun (heard, s) =>
    let answered := (services.analyze grammar code).run s
    (answered.1, (heard ++ [answered.1], answered.2))
  load key := unheard (services.load key)
  persist key text := unheard (services.persist key text)
  log event := unheard (services.log event)

/-- `x'` does what `x` does and writes down nothing. -/
def Unheard {α : Type} (x' : StateM (Answers × σ) α) (x : StateM σ α) : Prop :=
  ∀ heard s, x'.run (heard, s) = ((x.run s).1, (heard, (x.run s).2))

/-- `x'` does what `x` does and writes down the raw form of what it answers, if there is
    an answer. -/
def Hears (x' : StateM (Answers × σ) (Option (Except AnalysisError AnalysisResult)))
    (x : StateM σ (Option (Except AnalysisError AnalysisResult))) : Prop :=
  ∀ heard s, ∃ new : Answers, new.map interpret = (x.run s).1.toList ∧
    x'.run (heard, s) = ((x.run s).1, (heard ++ new, (x.run s).2))

theorem unheard_pure {α : Type} (a : α) :
    Unheard (pure a : StateM (Answers × σ) α) (pure a : StateM σ α) := by
  intro heard s
  rfl

theorem unheard_unheard {α : Type} (x : StateM σ α) : Unheard (unheard x) x := by
  intro heard s
  rfl

theorem Unheard.bind {α β : Type} {x' : StateM (Answers × σ) α} {x : StateM σ α}
    {f' : α → StateM (Answers × σ) β} {f : α → StateM σ β} (hx : Unheard x' x)
    (hf : ∀ a, Unheard (f' a) (f a)) : Unheard (x' >>= f') (x >>= f) := by
  intro heard s
  rw [run_bind_state, hx heard s, hf]
  rfl

theorem hears_none :
    Hears (pure none : StateM (Answers × σ) _) (pure none : StateM σ _) := by
  intro heard s
  refine ⟨[], rfl, ?_⟩
  rw [List.append_nil]
  rfl

/-- What comes before an answer writes down nothing. -/
theorem Unheard.hears {α : Type} {x' : StateM (Answers × σ) α} {x : StateM σ α}
    {f' : α → StateM (Answers × σ) (Option (Except AnalysisError AnalysisResult))}
    {f : α → StateM σ (Option (Except AnalysisError AnalysisResult))} (hx : Unheard x' x)
    (hf : ∀ a, Hears (f' a) (f a)) : Hears (x' >>= f') (x >>= f) := by
  intro heard s
  obtain ⟨new, hnew, hrun⟩ := hf (x.run s).1 heard (x.run s).2
  refine ⟨new, hnew, ?_⟩
  rw [run_bind_state, hx heard s]
  exact hrun

/-- What comes behind an answer writes down nothing. -/
theorem Hears.andThen {x' : StateM (Answers × σ) (Option (Except AnalysisError AnalysisResult))}
    {x : StateM σ (Option (Except AnalysisError AnalysisResult))}
    {f' : Option (Except AnalysisError AnalysisResult) → StateM (Answers × σ) PUnit}
    {f : Option (Except AnalysisError AnalysisResult) → StateM σ PUnit} (hx : Hears x' x)
    (hf : ∀ a, Unheard (f' a) (f a)) :
    Hears (do let a ← x'; f' a; return a) (do let a ← x; f a; return a) := by
  intro heard s
  obtain ⟨new, hnew, hrun⟩ := hx heard s
  refine ⟨new, hnew, ?_⟩
  rw [run_bind_state, hrun, run_bind_state, hf]
  rfl

namespace Controller

variable (services : Services (StateM σ))

/-! ### The answers of one operation -/

theorem unheard_persist (key text : String) :
    Unheard (persist services.hearing key text) (persist services key text) := by
  apply (unheard_unheard (services.persist key text)).bind
  intro result
  cases result with
  | ok _ => exact unheard_pure _
  | error e => exact unheard_unheard _

/-- The analyzer is asked at most once, and what it answers is heard. -/
theorem hears_consult (snapshot : Snapshot) :
    Hears (consult services.hearing snapshot) (consult services snapshot) := by
  unfold consult
  cases snapshot.grammar.isEmpty with
  | true => exact hears_none
  | false =>
    intro heard s
    rcases hanswer : (services.analyze snapshot.grammar snapshot.code).run s with ⟨raw, s'⟩
    have hheard : (services.hearing.analyze snapshot.grammar snapshot.code).run (heard, s) =
        (raw, (heard ++ [raw], s')) := by
      simp only [Services.hearing, StateT.run] at hanswer ⊢
      rw [hanswer]
    simp only [Bool.false_eq_true, if_false, run_bind_state, hanswer, hheard]
    refine ⟨[raw], ?_, ?_⟩
    · rw [List.map_singleton]
      cases interpret raw <;> rfl
    · cases interpret raw <;> rfl

theorem hears_attend (c : Controller) : Hears (c.attend services.hearing) (c.attend services) := by
  unfold attend
  apply (unheard_persist services _ _).hears
  intro _
  apply (unheard_persist services _ _).hears
  intro _
  exact (hears_consult services c.snapshot).andThen fun answer => unheard_unheard _

theorem hears_effects (c : Controller) (op : Operation) :
    Hears (c.effects services.hearing op) (c.effects services op) := by
  cases op with
  | start =>
    apply (unheard_unheard _).hears
    intro _
    exact hears_attend services c
  | runCycle => exact hears_attend services c
  | edit stage text now =>
    apply (unheard_unheard _).hears
    intro _
    exact hears_none
  | poll now =>
    by_cases hdue : c.debouncer.Due now
    · obtain ⟨p, hp, hle⟩ := hdue
      rw [effects_poll_of_pending _ hp hle, effects_poll_of_pending _ hp hle]
      apply (unheard_unheard _).hears
      intro _
      exact hears_attend services c.disarmed
    · rw [effects_poll_of_not_due _ hdue, effects_poll_of_not_due _ hdue]
      exact hears_none
  | activate stage index => exact hears_none
  | follow stage d => exact hears_none

/-- **One operation, heard.**  It is a reaction to what the raw answer means. -/
theorem perform_hearing (c : Controller) (op : Operation) (heard : Answers) (s : σ) :
    ∃ (new : Answers) (answer : Option (Except AnalysisError AnalysisResult)) (s' : σ),
      new.map interpret = answer.toList ∧
      (c.perform services op).run s = (c.react answer op, s') ∧
      (c.perform services.hearing op).run (heard, s) = (c.react answer op, (heard ++ new, s')) ∧
      answer.isNone = (!c.runsCycle op || c.grammar.text.isEmpty) := by
  obtain ⟨new, hnew, hrun⟩ := hears_effects services c op heard s
  refine ⟨new, ((c.effects services op).run s).1, ((c.effects services op).run s).2, hnew, ?_, ?_,
    isNone_effects services c op s⟩
  · rw [perform_eq]
    rfl
  · rw [perform_eq, map_eq_pure_bind, run_bind_state, hrun]
    rfl

/-! ### The results of the cycles -/

/-- What came of cycles that began with these texts: the next answer for each that has a
    grammar, and nothing for the others. -/
def resultsOf :
    List (String × String) → Answers → List (Option (Except AnalysisError AnalysisResult))
  | [], _ => []
  | texts :: more, heard =>
    if texts.1.isEmpty then none :: resultsOf more heard
    else match heard with
      | [] => []
      | raw :: heard => some (interpret raw) :: resultsOf more heard

/-- How a cycle ends, by its result. -/
def outcomeOf : Option (Except AnalysisError AnalysisResult) → Outcome
  | none => .empty
  | some (.ok _) => .rendered
  | some (.error e) => .failed e

/-- What a cycle that did not fail has to be shown: nothing without a grammar, and its
    decoded response otherwise. -/
def good? : Option (Except AnalysisError AnalysisResult) → Option (Option AnalysisResult)
  | none => some none
  | some (.ok result) => some (some result)
  | some (.error _) => none

/-- What is shown after cycles with these results: the last one that did not fail. -/
def shown (results : List (Option (Except AnalysisError AnalysisResult))) : Display :=
  match (results.filterMap good?).getLast? with
  | none => .cleared
  | some result => .render result

/-- What a further result makes of a display. -/
def replacing (d : Display) (result : Option (Except AnalysisError AnalysisResult)) : Display :=
  match good? result with
  | none => d
  | some result => .render result

theorem shown_concat (results : List (Option (Except AnalysisError AnalysisResult)))
    (result : Option (Except AnalysisError AnalysisResult)) :
    shown (results ++ [result]) = replacing (shown results) result := by
  unfold shown replacing
  rw [List.filterMap_append]
  cases h : good? result with
  | none => simp [h]
  | some x => simp [h]

/-- Results are put together if no answer is left over in between. -/
theorem resultsOf_append (texts more : List (String × String)) (heard new : Answers)
    (h : heard.length = (texts.filter fun t => !t.1.isEmpty).length) :
    resultsOf (texts ++ more) (heard ++ new) = resultsOf texts heard ++ resultsOf more new := by
  induction texts generalizing heard with
  | nil =>
    obtain rfl := List.eq_nil_of_length_eq_zero h
    rfl
  | cons t texts ih =>
    cases hempty : t.1.isEmpty with
    | true =>
      simp only [List.filter_cons, hempty, Bool.not_true, Bool.false_eq_true, if_false] at h
      simp only [List.cons_append, resultsOf, hempty, if_true, ih heard h]
    | false =>
      simp only [List.filter_cons, hempty, Bool.not_false, if_true, List.length_cons] at h
      cases heard with
      | nil => cases h
      | cons raw heard =>
        simp only [List.cons_append, resultsOf, hempty, Bool.false_eq_true, if_false,
          ih heard (Nat.succ.inj h)]

theorem resultsOf_singleton {texts : String × String} {new : Answers}
    {answer : Option (Except AnalysisError AnalysisResult)}
    (hnew : new.map interpret = answer.toList) (hnone : answer.isNone = texts.1.isEmpty) :
    resultsOf [texts] new = [answer] ∧
      new.length = ([texts].filter fun t => !t.1.isEmpty).length := by
  cases answer with
  | none =>
    obtain rfl := List.map_eq_nil_iff.mp hnew
    simp [resultsOf, ← hnone]
  | some a =>
    obtain ⟨raw, rfl, rfl⟩ := List.map_eq_singleton_iff.mp hnew
    simp [resultsOf, ← hnone]

/-! ### What an operation shows -/

theorem cycled_outcome (c : Controller) (answer : Option (Except AnalysisError AnalysisResult)) :
    (c.cycled answer).1 = outcomeOf answer := by
  rcases answer with _ | _ | _ <;> rfl

theorem cycled_display (c : Controller) (answer : Option (Except AnalysisError AnalysisResult)) :
    (c.cycled answer).2.display = replacing c.display answer := by
  rcases answer with _ | _ | _ <;> rfl

/-- **One operation**: a cycle ends as its result says and shows it unless it is a failure,
    and what is no cycle leaves the display alone. -/
theorem display_react (c : Controller) (answer : Option (Except AnalysisError AnalysisResult))
    (op : Operation) :
    (c.runsCycle op = true → (c.react answer op).1.cycle? = some (outcomeOf answer) ∧
        (c.react answer op).2.display = replacing c.display answer) ∧
      (c.runsCycle op = false → (c.react answer op).1.cycle? = none ∧
        (c.react answer op).2.display = c.display) := by
  have hr := reaction_react c answer op
  generalize (c.react answer op).1 = a at hr ⊢
  generalize (c.react answer op).2 = c' at hr ⊢
  cases hr with
  | start | runCycle =>
    refine ⟨fun _ => ⟨?_, cycled_display c answer⟩, fun h => by cases h⟩
    rw [Answer.cycle?, cycled_outcome]
  | due now hdue =>
    refine ⟨fun _ => ⟨?_, cycled_display c.disarmed answer⟩, fun h => ?_⟩
    · rw [Answer.cycle?, cycled_outcome]
    · simp [runsCycle, hdue] at h
  | early now hdue =>
    refine ⟨fun h => ?_, fun _ => ⟨rfl, rfl⟩⟩
    simp [runsCycle, hdue] at h
  | edit stage text now =>
    refine ⟨fun h => ?_, fun _ => ⟨rfl, ?_⟩⟩
    · cases h
    · cases stage <;> rfl
  | activate _ _ _ _ hsame | follow _ _ _ _ hsame =>
    refine ⟨fun h => ?_, fun _ => ⟨rfl, hsame.display⟩⟩
    cases h

/-! ### What a history shows -/

/-- **Hearing changes nothing**, and what is heard tells how the cycles ended and what is
    shown. -/
theorem history_hearing (settings : Settings) (ops : List Operation) (s : σ) :
    let h := history services settings ops s
    ∃ answers : Answers,
      history services.hearing settings ops ([], s) =
        ⟨h.restored, h.moments, h.current, (answers, h.outside)⟩ ∧
      answers.length = (h.cycleTexts.filter fun t => !t.1.isEmpty).length ∧
      h.moments.filterMap (·.answer.cycle?) = (resultsOf h.cycleTexts answers).map outcomeOf ∧
      h.current.display = shown (resultsOf h.cycleTexts answers) := by
  -- By the last operation: the answers are written down in the order of the cycles.
  induction ops using List.reverseRecOn with
  | nil => exact ⟨[], rfl, rfl, rfl, rfl⟩
  | append_singleton ops op ih =>
    have hgrammar := text_current services settings ops s .grammar
    obtain ⟨answers, hheard, hlength, houtcomes, hdisplay⟩ := ih
    obtain ⟨new, answer, s', hnew, hrun, hrun', hnone⟩ := perform_hearing services
      (history services settings ops s).current op answers (history services settings ops s).outside
    have hreact := display_react (history services settings ops s).current answer op
    simp only [history_concat, hheard, hrun, hrun']
    generalize history services settings ops s = h at *
    refine ⟨answers ++ new, rfl, ?_⟩
    rw [cycleTexts_extend]
    simp only [History.extend, List.filterMap_append] at hgrammar ⊢
    cases hruns : h.current.runsCycle op with
    | true =>
      obtain ⟨hcycle, hshown⟩ := hreact.1 hruns
      rw [hruns] at hnone
      have htexts : answer.isNone = (h.textsAfter h.moments).1.isEmpty := by
        rw [hnone, History.textsAfter, ← hgrammar]
        rfl
      obtain ⟨hresults, hone⟩ := resultsOf_singleton hnew htexts
      simp only [hcycle, Option.map_some, Option.toList_some]
      rw [resultsOf_append _ _ _ _ hlength, hresults, shown_concat, hshown, hdisplay]
      refine ⟨?_, ?_, rfl⟩
      · rw [List.length_append, List.filter_append, List.length_append, hlength, hone]
      · rw [houtcomes, List.map_append]
        simp [hcycle]
    | false =>
      obtain ⟨hcycle, hshown⟩ := hreact.2 hruns
      have hanswer : answer = none := by simpa [hruns] using hnone
      obtain rfl : new = [] := by simpa [hanswer] using hnew
      simp only [hcycle, Option.map_none, Option.toList_none, List.append_nil]
      exact ⟨hlength, by simpa [hcycle] using houtcomes, hshown.trans hdisplay⟩

/-! ### Cycles that fail -/

/-- A pipeline that has counted one more cycle and one more call. -/
def countingFailure (c : Controller) : Controller :=
  { c with cycles := c.cycles + 1, invocations := c.invocations + 1 }

theorem cycled_failed {c : Controller} {answer : Option (Except AnalysisError AnalysisResult)}
    {e : AnalysisError} (h : (c.cycled answer).1 = .failed e) :
    (c.cycled answer).2 = c.countingFailure.settle := by
  rcases answer with _ | _ | _
  · cases h
  · rfl
  · cases h

/-- **A cycle that fails** counts itself and its call, and leaves everything else. -/
theorem runCycle_failed {c c' : Controller} {e : AnalysisError} {s s' : σ}
    (h : (c.runCycle services).run s = ((.failed e, c'), s')) :
    c' = c.countingFailure.settle := by
  rw [runCycle_eq] at h
  have hcycled : c.cycled ((c.attend services).run s).1 = (.failed e, c') :=
    congrArg Prod.fst h
  have hfailed := cycled_failed (congrArg Prod.fst hcycled)
  rwa [hcycled] at hfailed

/-- The cycle after one that failed finds what that one found. -/
theorem answer_after_failure (c : Controller) (s : σ) :
    ((c.countingFailure.settle.attend services).run s).1 = ((c.attend services).run s).1 := by
  simp only [attend, run_bind_state]
  rfl

/-- **The cycle after one that failed** comes out as it would have without it, but for the
    counters. -/
theorem runCycle_after_failure (c : Controller) (s : σ) :
    let next := ((c.countingFailure.settle.runCycle services).run s).1
    let would := ((c.runCycle services).run s).1
    next.1 = would.1 ∧ next.2 = would.2.countingFailure := by
  have hnext : ((c.countingFailure.settle.runCycle services).run s).1 =
      c.countingFailure.settle.cycled ((c.attend services).run s).1 := by
    rw [runCycle_eq, ← answer_after_failure]
    rfl
  have hwould : ((c.runCycle services).run s).1 = c.cycled ((c.attend services).run s).1 := by
    rw [runCycle_eq]
    rfl
  rw [hnext, hwould]
  rcases ((c.attend services).run s).1 with _ | _ | _
  · exact ⟨rfl, rfl⟩
  · exact ⟨rfl, rfl⟩
  · exact ⟨rfl, rfl⟩

/-! ### The law -/

/-- **What is shown is the last good result.**  For all services, settings and operations:
    the outcomes of the cycles are those of their results, where a cycle without a grammar
    has none and any other has what its raw answer is decoded as, and the display is that
    of the last cycle which did not fail, or cleared if there is none.  A cycle that fails
    counts itself and its call and leaves everything else as it was, and the next cycle
    comes out as it would have without it.  Operations that run no cycle, which are edits,
    polls that are not due and activations, leave the display alone. -/
theorem shows_last_good (settings : Settings) (ops : List Operation) (s : σ) :
    let h := history services settings ops s
    let heard := history services.hearing settings ops ([], s)
    let results := resultsOf h.cycleTexts heard.outside.1
    (heard.restored = h.restored ∧ heard.moments = h.moments ∧ heard.current = h.current ∧
        heard.outside.2 = h.outside) ∧
      heard.outside.1.length = (h.cycleTexts.filter fun texts => !texts.1.isEmpty).length ∧
      h.moments.filterMap (·.answer.cycle?) = results.map outcomeOf ∧
      h.current.display = shown results ∧
      (∀ (c c' : Controller) (e : AnalysisError) (s₁ s₂ : σ),
        (c.runCycle services).run s₁ = ((.failed e, c'), s₂) →
        c' = { c with
          phase := if c.debouncer.isPending then .pending else .rendered
          cycles := c.cycles + 1
          invocations := c.invocations + 1 } ∧
        ∀ s₃, let next := ((c'.runCycle services).run s₃).1
          let would := ((c.runCycle services).run s₃).1
          next.1 = would.1 ∧ next.2 = { would.2 with
            cycles := would.2.cycles + 1
            invocations := would.2.invocations + 1 }) ∧
      ∀ op s₁, h.current.runsCycle op = false →
        ((h.current.perform services op).run s₁).1.2.display = h.current.display := by
  intro h heard results
  obtain ⟨answers, hheard, hlength, houtcomes, hdisplay⟩ :=
    history_hearing services settings ops s
  have hanswers : heard.outside.1 = answers := congrArg (·.outside.1) hheard
  have hresults : results = resultsOf h.cycleTexts answers :=
    congrArg (resultsOf h.cycleTexts) hanswers
  refine ⟨?_, ?_, ?_, ?_, ?_, ?_⟩
  · simp only [heard, hheard]
    exact ⟨rfl, rfl, rfl, rfl⟩
  · rw [hanswers]
    exact hlength
  · rw [hresults]
    exact houtcomes
  · rw [hresults]
    exact hdisplay
  · intro c c' e s₁ s₂ hrun
    obtain rfl := runCycle_failed services hrun
    exact ⟨rfl, runCycle_after_failure services c⟩
  · intro op s₁ hruns
    obtain ⟨answer, hrun, -⟩ := perform_run services h.current op s₁
    rw [hrun]
    exact ((display_react h.current answer op).2 hruns).2

/-- Services whose analyzer gives one good answer, then none, and then nonsense. -/
def moody : Services (StateM Nat) where
  analyze _ _ := fun n =>
    (match n with
      | 0 => .ok "[[],[],\"tree\"]"
      | 1 => .error ⟨"gone", none⟩
      | _ => .ok "nonsense", n + 1)
  load _ := pure none
  persist key _ := pure (.error (.write key "full"))
  log _ := pure ()

/-- Two cycles that fail in different ways go on showing what the one before them found. -/
theorem shows_last_good_through_failures :
    let ops : List Operation :=
      [.edit .grammar "a" 0, .runCycle, .edit .code "b" 5, .poll 755, .start]
    let h := history moody .standard ops 0
    (h.moments.filterMap (·.answer.cycle?)).map Outcome.label = ["rendered", "failed", "failed"] ∧
      h.current.display = ⟨.valid, .valid, "tree", ""⟩ := by
  intro ops h
  obtain ⟨-, -, houtcomes, hdisplay, -, -⟩ := shows_last_good moody .standard ops 0
  rw [houtcomes, hdisplay]
  decide +kernel

end Controller

end GrammarLint
