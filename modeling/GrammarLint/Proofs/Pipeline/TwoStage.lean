/-
  GrammarLint/Proofs/Pipeline/TwoStage.lean
  =========================================
  **The two stages of a display** — what fits together in everything that a pipeline ever
  shows.

  A display may be any two states of stages and any two texts; `Display.TwoStage` says which
  of them belong together.  Whatever is rendered is of that kind, and a pipeline shows
  nothing else: its display is cleared, or it was rendered from a result that some answer of
  the analyzer was decoded as, however many cycles have failed since (`shown_eq`).

  What is hidden by a finding has no part in the display, so results that differ behind it
  only are not told apart.
-/
import GrammarLint.Proofs.Pipeline.LastGood

namespace GrammarLint

/-- The findings about one of the texts. -/
def AnalysisResult.findings (r : AnalysisResult) : Stage → List Diagnostic
  | .grammar => r.grammar
  | .code => r.code

namespace Display

/-! ### Displays -/

/-- The findings that are listed for a stage. -/
def lists (d : Display) : Stage → List Diagnostic
  | .grammar => match d.grammar with
    | .invalid ds => ds
    | _ => []
  | .code => match d.code with
    | .invalid ds => ds
    | _ => []

theorem findings_stage (d : Display) (stage : Stage) :
    (d.stage stage).findings = d.lists stage := by
  cases stage with
  | grammar => exact StageState.findings.eq_def d.grammar
  | code => exact StageState.findings.eq_def d.code

/-- **Two stages, one after the other**: the code is shown for a valid grammar only, and the
    trees for valid code only. -/
structure TwoStage (d : Display) : Prop where
  listed : ∀ stage, d.stage stage ≠ .invalid []
  code_after_grammar : d.code ≠ .empty ↔ d.grammar = .valid
  trees_after_code : d.ast ≠ "" ∨ d.astOptimized ≠ "" → d.grammar = .valid ∧ d.code = .valid
  cleared : d.grammar = .empty ↔ d.isCleared = true

theorem twoStage_cleared : cleared.TwoStage := by
  constructor
  · intro stage
    cases stage <;> simp [cleared, stage]
  · simp [cleared]
  · simp [cleared]
  · simp [isCleared, cleared]

section Render

variable {r : AnalysisResult}

theorem render_of_grammar (h : r.grammar ≠ []) :
    render (some r) = ⟨.invalid r.grammar, .empty, "", ""⟩ := by
  simp [render, cleared, h]

theorem render_of_code (hgrammar : r.grammar = []) (hcode : r.code ≠ []) :
    render (some r) = ⟨.valid, .invalid r.code, "", ""⟩ := by
  simp [render, StageState.ofFindings, hgrammar, hcode]

theorem render_of_valid (hgrammar : r.grammar = []) (hcode : r.code = []) :
    render (some r) = ⟨.valid, .valid, r.ast, r.astOptimized⟩ := by
  simp [render, StageState.ofFindings, hgrammar, hcode]

end Render

theorem twoStage_render (r : AnalysisResult) : (render (some r)).TwoStage := by
  by_cases hgrammar : r.grammar = []
  · by_cases hcode : r.code = []
    · rw [render_of_valid hgrammar hcode]
      constructor
      · intro stage
        cases stage <;> simp [stage]
      · simp
      · simp
      · simp [isCleared, cleared]
    · rw [render_of_code hgrammar hcode]
      constructor
      · intro stage
        cases stage <;> simp [stage, hcode]
      · simp
      · simp
      · simp [isCleared, cleared]
  · rw [render_of_grammar hgrammar]
    constructor
    · intro stage
      cases stage <;> simp [stage, hgrammar]
    · simp
    · simp
    · simp [isCleared, cleared]

theorem isCleared_render (r : AnalysisResult) : (render (some r)).isCleared = false := by
  have hshown : (render (some r)).grammar ≠ .empty := by
    by_cases hgrammar : r.grammar = []
    · by_cases hcode : r.code = []
      · simp [render_of_valid hgrammar hcode]
      · simp [render_of_code hgrammar hcode]
    · simp [render_of_grammar hgrammar]
  rw [← Bool.not_eq_true, ← (twoStage_render r).cleared]
  exact hshown

/-- No two stages list findings at the same time. -/
theorem TwoStage.lists_one {d : Display} (h : d.TwoStage) {s s' : Stage}
    (hs : d.lists s ≠ []) (hs' : d.lists s' ≠ []) : s = s' := by
  have hboth : ¬ (d.lists .grammar ≠ [] ∧ d.lists .code ≠ []) := by
    rintro ⟨hgrammar, hcode⟩
    have hshown : d.code ≠ .empty := by
      intro hempty
      simp [lists, hempty] at hcode
    simp [lists, h.code_after_grammar.mp hshown] at hgrammar
  cases s <;> cases s'
  · rfl
  · exact absurd ⟨hs, hs'⟩ hboth
  · exact absurd ⟨hs', hs⟩ hboth
  · rfl

/-- What is listed and drawn is what was found, and all of it, in the same order. -/
theorem stage_render_eq_invalid_iff (r : AnalysisResult) (s : Stage) (ds : List Diagnostic) :
    (render (some r)).stage s = .invalid ds ↔
      ds = r.findings s ∧ ds ≠ [] ∧ (s = .code → r.grammar = []) := by
  by_cases hgrammar : r.grammar = []
  · by_cases hcode : r.code = []
    · rw [render_of_valid hgrammar hcode]
      cases s <;> simp [stage, AnalysisResult.findings, hgrammar, hcode]
    · rw [render_of_code hgrammar hcode]
      cases s
      · simp [stage, AnalysisResult.findings, hgrammar]
      · simp only [stage, AnalysisResult.findings, StageState.invalid.injEq, hgrammar,
          implies_true, and_true]
        constructor
        · rintro rfl
          exact ⟨rfl, hcode⟩
        · rintro ⟨rfl, -⟩
          rfl
  · rw [render_of_grammar hgrammar]
    cases s
    · simp only [stage, AnalysisResult.findings, StageState.invalid.injEq, reduceCtorEq,
        false_implies, and_true]
      constructor
      · rintro rfl
        exact ⟨rfl, hgrammar⟩
      · rintro ⟨rfl, -⟩
        rfl
    · simp [stage, hgrammar]

theorem code_render_eq_valid_iff (r : AnalysisResult) :
    (render (some r)).code = .valid ↔ r.grammar = [] ∧ r.code = [] := by
  by_cases hgrammar : r.grammar = []
  · by_cases hcode : r.code = []
    · simp [render_of_valid hgrammar hcode, hgrammar, hcode]
    · simp [render_of_code hgrammar hcode, hcode]
  · simp [render_of_grammar hgrammar, hgrammar]

end Display

namespace Controller

/-! ### What a pipeline shows -/

variable {σ : Type} (services : Services (StateM σ))

theorem answer_of_mem_resultsOf {texts : List (String × String)} {heard : Answers}
    {result : Except AnalysisError AnalysisResult} (h : some result ∈ resultsOf texts heard) :
    ∃ raw ∈ heard, interpret raw = result := by
  induction texts generalizing heard with
  | nil => cases h
  | cons t texts ih =>
    unfold resultsOf at h
    split at h
    · rcases List.mem_cons.mp h with h | h
      · cases h
      · exact ih h
    · split at h
      · cases h
      · rcases List.mem_cons.mp h with h | h
        · exact ⟨_, List.mem_cons_self, (Option.some.inj h).symm⟩
        · obtain ⟨raw, hraw, hresult⟩ := ih h
          exact ⟨raw, List.mem_cons_of_mem _ hraw, hresult⟩

/-- Nothing is shown but what was rendered from one of the results. -/
theorem shown_eq (results : List (Option (Except AnalysisError AnalysisResult))) :
    shown results = .cleared ∨
      ∃ r, some (.ok r) ∈ results ∧ shown results = .render (some r) := by
  unfold shown
  cases hlast : (results.filterMap good?).getLast? with
  | none => exact Or.inl rfl
  | some last =>
    cases last with
    | none => exact Or.inl rfl
    | some r =>
      obtain ⟨result, hmem, hgood⟩ := List.mem_filterMap.mp (List.mem_of_getLast? hlast)
      rcases result with _ | e | r'
      · cases hgood
      · cases hgood
      · cases hgood
        exact Or.inr ⟨r, hmem, rfl⟩

/-! ### The law -/

/-- **The two stages of a display.**  For all services, settings and operations the display
    is cleared, or it was rendered from what an answer of the analyzer was decoded as.  A
    stage that is invalid lists something; the code stage shows something exactly if the
    grammar is valid, so at most one stage lists findings; a tree is shown only if both
    stages are valid; and the grammar stage is empty exactly if all is cleared.

    Of a result with findings about the grammar nothing else is rendered, and of one with
    findings about the code no tree.  The findings and the trees that are shown are those of
    the result, in the same order. -/
theorem display_two_stage (settings : Settings) (ops : List Operation) (s : σ) :
    let d := (history services settings ops s).current.display
    let heard := (history services.hearing settings ops ([], s)).outside.1
    d.TwoStage ∧
      (∀ s s', d.lists s ≠ [] → d.lists s' ≠ [] → s = s') ∧
      (d = .cleared ∨ ∃ raw ∈ heard, ∃ r, interpret raw = .ok r ∧ d = .render (some r)) ∧
      (∀ r r' : AnalysisResult, r.grammar ≠ [] → r.grammar = r'.grammar →
        Display.render (some r) = Display.render (some r')) ∧
      (∀ r r' : AnalysisResult, r.grammar = [] → r'.grammar = [] → r.code ≠ [] →
        r.code = r'.code → Display.render (some r) = Display.render (some r')) ∧
      ∀ r : AnalysisResult, let shown := Display.render (some r)
        (∀ s ds, shown.stage s = .invalid ds ↔
          ds = r.findings s ∧ ds ≠ [] ∧ (s = .code → r.grammar = [])) ∧
        (shown.code = .valid ↔ r.grammar = [] ∧ r.code = []) ∧
        (shown.code = .valid → shown.ast = r.ast ∧ shown.astOptimized = r.astOptimized) := by
  intro d heard
  obtain ⟨answers, hheard, -, -, hdisplay⟩ := history_hearing services settings ops s
  have hanswers : heard = answers := congrArg (·.outside.1) hheard
  have horigin : d = .cleared ∨
      ∃ raw ∈ heard, ∃ r, interpret raw = .ok r ∧ d = .render (some r) := by
    rw [hanswers]
    rcases shown_eq (resultsOf (history services settings ops s).cycleTexts answers) with
      hcleared | ⟨r, hmem, hrender⟩
    · exact Or.inl (hdisplay.trans hcleared)
    · obtain ⟨raw, hraw, hr⟩ := answer_of_mem_resultsOf hmem
      exact Or.inr ⟨raw, hraw, r, hr, hdisplay.trans hrender⟩
  have htwo : d.TwoStage := by
    rcases horigin with hcleared | ⟨raw, -, r, -, hrender⟩
    · rw [hcleared]
      exact Display.twoStage_cleared
    · rw [hrender]
      exact Display.twoStage_render r
  refine ⟨htwo, fun _ _ => htwo.lists_one, horigin, ?_, ?_, ?_⟩
  · intro r r' hgrammar hsame
    rw [Display.render_of_grammar hgrammar, Display.render_of_grammar (hsame ▸ hgrammar), hsame]
  · intro r r' hgrammar hgrammar' hcode hsame
    rw [Display.render_of_code hgrammar hcode, Display.render_of_code hgrammar' (hsame ▸ hcode),
      hsame]
  · intro r
    refine ⟨Display.stage_render_eq_invalid_iff r, Display.code_render_eq_valid_iff r, ?_⟩
    intro hvalid
    obtain ⟨hgrammar, hcode⟩ := (Display.code_render_eq_valid_iff r).mp hvalid
    rw [Display.render_of_valid hgrammar hcode]
    exact ⟨rfl, rfl⟩

end Controller

end GrammarLint
