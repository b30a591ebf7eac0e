/-
  GrammarLint/Proofs/Pipeline/Activation.lean
  ===========================================
  **Following a finding moves a cursor** and the focus, and does nothing else.

  What a pipeline does next does not depend on cursors: states that differ in cursors and
  focus only have the same effects, give the same answers and go to such states again
  (`SameButCursors.perform`).  Following a finding leads to such a state.  So activations
  can be left out of a history, one after another from its end, without a change to
  anything but cursors (`sameWork_filter`); and two histories that differ in activations
  only are compared with the one in which there are none.
-/
import GrammarLint.Proofs.Diagnostic.Span
import GrammarLint.Proofs.Pipeline.TwoStage

namespace GrammarLint

namespace Controller

/-! ### One activation -/

/-- What following a finding of a stage to `t` makes of a pipeline. -/
structure Followed (c : Controller) (stage : Stage) (d : Diagnostic) (t : Target)
    (c' : Controller) : Prop where
  stage_eq : t.stage = stage
  line : t.position.line.toNat = d.line.toNat - 1
  column : t.position.column.toNat = d.column.toNat - 1
  cursor : (c'.buffer stage).cursor = t.position
  focused : (c'.buffer stage).focused = true
  blurred : (c'.buffer stage.other).focused = false
  /-- The cursor is where the finding is in the text as it is now. -/
  offset : (c'.buffer stage).cursorOffset = (d.span (c.buffer stage).text).1
  cursor_other : (c'.buffer stage.other).cursor = (c.buffer stage.other).cursor
  same : SameButCursors c c'

theorem followed_follow (c : Controller) (stage : Stage) (d : Diagnostic) :
    Followed c stage d (c.follow stage d).1 (c.follow stage d).2 where
  stage_eq := rfl
  line := toNat_predecessor d.line
  column := toNat_predecessor d.column
  cursor := by cases stage <;> rfl
  focused := by cases stage <;> rfl
  blurred := by cases stage <;> rfl
  offset := by
    have hfirst : ∀ text, (d.span text).1 =
        (Text.LineIndex.ofText text).offset d.target.line.toNat d.target.column.toNat := by
      intro text
      rw [Diagnostic.span, Diagnostic.spanIn]
      split
      · split <;> rfl
      · rfl
    rw [hfirst]
    cases stage <;> rfl
  cursor_other := by cases stage <;> rfl
  same := sameButCursors_follow c stage d

section Activate

variable {c : Controller} {stage : Stage} {index : Nat}

theorem activate_of_none (h : (c.display.lists stage)[index]? = none) :
    c.activate stage index = (none, c) := by
  rw [activate, Display.findings_stage, h]

theorem activate_of_some {d : Diagnostic} (h : (c.display.lists stage)[index]? = some d) :
    c.activate stage index = (some (c.follow stage d).1, (c.follow stage d).2) := by
  rw [activate, Display.findings_stage, h]

end Activate

/-! ### One focus -/

/-- At most one of the two texts has the focus. -/
def OneFocus (c : Controller) : Prop := ¬ (c.grammar.focused = true ∧ c.code.focused = true)

theorem oneFocus_follow (c : Controller) (stage : Stage) (d : Diagnostic) :
    (c.follow stage d).2.OneFocus := by
  rintro ⟨hgrammar, hcode⟩
  have hblurred := (followed_follow c stage d).blurred
  cases stage with
  | grammar => exact absurd hcode (Bool.eq_false_iff.mp hblurred)
  | code => exact absurd hgrammar (Bool.eq_false_iff.mp hblurred)

theorem oneFocus_cycled {c : Controller} (h : c.OneFocus)
    (answer : Option (Except AnalysisError AnalysisResult)) : (c.cycled answer).2.OneFocus := by
  rw [OneFocus, cycled_grammar, cycled_code]
  exact h

theorem oneFocus_react {c : Controller} (h : c.OneFocus)
    (answer : Option (Except AnalysisError AnalysisResult)) (op : Operation) :
    (c.react answer op).2.OneFocus := by
  cases op with
  | start => exact oneFocus_cycled h answer
  | runCycle => exact oneFocus_cycled h answer
  | edit stage text now => cases stage <;> exact h
  | poll now =>
    by_cases hdue : c.debouncer.Due now
    · have hdisarmed : c.disarmed.OneFocus := h
      rw [react_poll_of_due hdue]
      exact oneFocus_cycled hdisarmed answer
    · rw [react_poll_of_not_due hdue]
      exact h
  | activate stage index =>
    rw [react]
    cases hd : (c.display.lists stage)[index]? with
    | none =>
      rw [activate_of_none hd]
      exact h
    | some d =>
      rw [activate_of_some hd]
      exact oneFocus_follow c stage d
  | follow stage d => exact oneFocus_follow c stage d

/-! ### What cursors have no part in -/

namespace SameButCursors

variable {c c' c'' : Controller}

theorem symm (h : SameButCursors c c') : SameButCursors c' c where
  settings := h.settings.symm
  text stage := (h.text stage).symm
  version stage := (h.version stage).symm
  debouncer := h.debouncer.symm
  phase := h.phase.symm
  display := h.display.symm
  cycles := h.cycles.symm
  invocations := h.invocations.symm

theorem trans (h : SameButCursors c c') (h' : SameButCursors c' c'') : SameButCursors c c'' where
  settings := h'.settings.trans h.settings
  text stage := (h'.text stage).trans (h.text stage)
  version stage := (h'.version stage).trans (h.version stage)
  debouncer := h'.debouncer.trans h.debouncer
  phase := h'.phase.trans h.phase
  display := h'.display.trans h.display
  cycles := h'.cycles.trans h.cycles
  invocations := h'.invocations.trans h.invocations

theorem snapshot (h : SameButCursors c c') : c'.snapshot = c.snapshot := by
  have hgrammar : c'.grammar.text = c.grammar.text := h.text .grammar
  have hcode : c'.code.text = c.code.text := h.text .code
  have hgrammarVersion : c'.grammar.version = c.grammar.version := h.version .grammar
  have hcodeVersion : c'.code.version = c.code.version := h.version .code
  simp only [Controller.snapshot, Snapshot.of, hgrammar, hcode, hgrammarVersion, hcodeVersion]

theorem cycled (h : SameButCursors c c')
    (answer : Option (Except AnalysisError AnalysisResult)) :
    (c'.cycled answer).1 = (c.cycled answer).1 ∧
      SameButCursors (c.cycled answer).2 (c'.cycled answer).2 := by
  constructor
  · rw [cycled_outcome, cycled_outcome]
  · constructor
    case settings => rw [cycled_settings, cycled_settings, h.settings]
    case text =>
      intro stage
      rw [cycled_buffer, cycled_buffer, h.text]
    case version =>
      intro stage
      rw [cycled_buffer, cycled_buffer, h.version]
    case debouncer => rw [cycled_debouncer, cycled_debouncer, h.debouncer]
    case phase => rw [cycled_phase, cycled_phase, h.debouncer]
    case display => rw [cycled_display, cycled_display, h.display]
    case cycles => rw [cycled_cycles, cycled_cycles, h.cycles]
    case invocations => rw [cycled_invocations, cycled_invocations, h.invocations]

theorem edited (h : SameButCursors c c') (stage : Stage) (text : String) (now : Nat) :
    SameButCursors (c.edited stage text now) (c'.edited stage text now) := by
  have hbuffer : ∀ other, ((c'.edited stage text now).buffer other).text =
        ((c.edited stage text now).buffer other).text ∧
      ((c'.edited stage text now).buffer other).version =
        ((c.edited stage text now).buffer other).version := by
    intro other
    by_cases hs : stage = other
    · subst hs
      rw [edited_buffer_self, edited_buffer_self]
      exact ⟨rfl, congrArg (· + 1) (h.version stage)⟩
    · rw [edited_buffer_of_ne _ _ _ hs, edited_buffer_of_ne _ _ _ hs]
      exact ⟨h.text other, h.version other⟩
  constructor
  case settings => rw [edited_settings, edited_settings, h.settings]
  case text => exact fun other => (hbuffer other).1
  case version => exact fun other => (hbuffer other).2
  case debouncer =>
    have hversion : ((c'.buffer stage).edit text).version = ((c.buffer stage).edit text).version :=
      congrArg (· + 1) (h.version stage)
    rw [edited_debouncer, edited_debouncer, h.debouncer, hversion]
  case phase => cases stage <;> rfl
  case display => cases stage <;> exact h.display
  case cycles => rw [edited_cycles, edited_cycles, h.cycles]
  case invocations => rw [edited_invocations, edited_invocations, h.invocations]

theorem disarmed (h : SameButCursors c c') : SameButCursors c.disarmed c'.disarmed where
  settings := h.settings
  text stage := by rw [disarmed_buffer, disarmed_buffer, h.text]
  version stage := by rw [disarmed_buffer, disarmed_buffer, h.version]
  debouncer := congrArg Debouncer.disarmed h.debouncer
  phase := h.phase
  display := h.display
  cycles := h.cycles
  invocations := h.invocations

theorem follow (h : SameButCursors c c') (stage : Stage) (d : Diagnostic) :
    SameButCursors (c.follow stage d).2 (c'.follow stage d).2 :=
  ((sameButCursors_follow c stage d).symm.trans h).trans (sameButCursors_follow c' stage d)

/-- **One operation** answers the same, and leads to states that differ in cursors and focus
    only. -/
theorem react (h : SameButCursors c c')
    (answer : Option (Except AnalysisError AnalysisResult)) (op : Operation) :
    (c'.react answer op).1 = (c.react answer op).1 ∧
      SameButCursors (c.react answer op).2 (c'.react answer op).2 := by
  cases op with
  | start | runCycle =>
    obtain ⟨houtcome, hsame⟩ := h.cycled answer
    exact ⟨congrArg Answer.outcome houtcome, hsame⟩
  | edit stage text now =>
    have hsame := h.edited stage text now
    exact ⟨congrArg Answer.version (hsame.version stage), hsame⟩
  | poll now =>
    by_cases hdue : c.debouncer.Due now
    · obtain ⟨houtcome, hsame⟩ := h.disarmed.cycled answer
      rw [react_poll_of_due hdue, react_poll_of_due (h.debouncer ▸ hdue), houtcome]
      exact ⟨rfl, hsame⟩
    · rw [react_poll_of_not_due hdue, react_poll_of_not_due (h.debouncer ▸ hdue)]
      exact ⟨rfl, h⟩
  | activate stage index =>
    -- The same findings are shown, so both follow the same one or none.
    rw [Controller.react, Controller.react]
    cases hd : (c.display.lists stage)[index]? with
    | none =>
      rw [activate_of_none hd, activate_of_none (h.display ▸ hd)]
      exact ⟨rfl, h⟩
    | some d =>
      rw [activate_of_some hd, activate_of_some (h.display ▸ hd)]
      exact ⟨rfl, h.follow stage d⟩
  | follow stage d => exact ⟨rfl, h.follow stage d⟩

section Effects

variable {m : Type → Type} [Monad m]

theorem attend (h : SameButCursors c c') (services : Services m) :
    c'.attend services = c.attend services := by
  have hgrammar : c'.grammar.text = c.grammar.text := h.text .grammar
  have hcode : c'.code.text = c.code.text := h.text .code
  have hevent : ∀ answer,
      (c'.cycled answer).2.finishedEvent = (c.cycled answer).2.finishedEvent := by
    intro answer
    obtain ⟨-, hsame⟩ := h.cycled answer
    rw [finishedEvent, finishedEvent, hsame.cycles, hsame.display]
  simp only [Controller.attend, h.settings, h.snapshot, hgrammar, hcode, hevent]

/-- **One operation** has the same effects. -/
theorem effects (h : SameButCursors c c') (services : Services m) (op : Operation) :
    c'.effects services op = c.effects services op := by
  have hattend := h.attend services
  cases op with
  | start =>
    have hgrammar : c'.grammar.text = c.grammar.text := h.text .grammar
    have hcode : c'.code.text = c.code.text := h.text .code
    simp only [Controller.effects, hgrammar, hcode, hattend]
  | runCycle => exact hattend
  | edit stage text now =>
    simp only [Controller.effects, Buffer.edit, h.version, h.debouncer]
  | poll now =>
    by_cases hdue : c.debouncer.Due now
    · obtain ⟨p, hp, hle⟩ := hdue
      have hp' : c'.debouncer.pending = some p := h.debouncer ▸ hp
      rw [effects_poll_of_pending services hp hle, effects_poll_of_pending services hp' hle,
        h.disarmed.attend services]
    · have hdue' : ¬ c'.debouncer.Due now := h.debouncer ▸ hdue
      rw [effects_poll_of_not_due services hdue, effects_poll_of_not_due services hdue']
  | activate stage index => rfl
  | follow stage d => rfl

end Effects

theorem perform {σ : Type} (h : SameButCursors c c') (services : Services (StateM σ))
    (op : Operation) (s : σ) :
    let performed := (c.perform services op).run s
    let performed' := (c'.perform services op).run s
    performed'.1.1 = performed.1.1 ∧ SameButCursors performed.1.2 performed'.1.2 ∧
      performed'.2 = performed.2 := by
  intro performed performed'
  obtain ⟨hanswer, hsame⟩ := h.react ((c.effects services op).run s).1 op
  simp only [performed, performed', perform_run_eq, h.effects]
  exact ⟨hanswer, hsame, trivial⟩

end SameButCursors

/-! ### Histories without activations -/

/-- The operations that follow a finding. -/
def Operation.navigates : Operation → Bool
  | .activate _ _ => true
  | .follow _ _ => true
  | _ => false

variable {σ : Type}

/-- What has happened to a pipeline apart from activations. -/
def History.work (h : History σ) : List Moment :=
  h.moments.filter fun moment => !moment.operation.navigates

theorem History.work_extend (h : History σ) (moment : Moment) (c : Controller) (s : σ) :
    (h.extend moment c s).work =
      h.work ++ (if moment.operation.navigates then [] else [moment]) := by
  rw [work, extend, List.filter_append, work]
  cases hnav : moment.operation.navigates <;> simp [hnav]

/-- Two histories that differ in activations only: everything else was asked for and was
    answered alike, and only cursors and focus are different now. -/
structure History.SameWork (h h' : History σ) : Prop where
  restored : h'.restored = h.restored
  work : h'.work = h.work
  current : SameButCursors h.current h'.current
  outside : h'.outside = h.outside

theorem History.SameWork.symm {h h' : History σ} (hsame : h.SameWork h') : h'.SameWork h where
  restored := hsame.restored.symm
  work := hsame.work.symm
  current := hsame.current.symm
  outside := hsame.outside.symm

theorem History.SameWork.trans {h h' h'' : History σ} (hsame : h.SameWork h')
    (hsame' : h'.SameWork h'') : h.SameWork h'' where
  restored := hsame'.restored.trans hsame.restored
  work := hsame'.work.trans hsame.work
  current := hsame.current.trans hsame'.current
  outside := hsame'.outside.trans hsame.outside

variable (services : Services (StateM σ)) (settings : Settings) (s : σ)

/-- **An activation more** is no work and leaves the outside alone. -/
theorem history_navigates (ops : List Operation) {op : Operation}
    (hop : op.navigates = true) :
    let h := history services settings ops s
    let reacted := h.current.react none op
    history services settings (ops ++ [op]) s =
      h.extend ⟨op, reacted.1⟩ reacted.2 h.outside := by
  intro h reacted
  rw [history_concat]
  simp only [perform_run_eq]
  cases op with
  | activate stage index => rfl
  | follow stage d => rfl
  | start | runCycle | edit | poll => cases hop

theorem sameWork_navigates (ops : List Operation) {op : Operation}
    (hop : op.navigates = true) :
    (history services settings ops s).SameWork (history services settings (ops ++ [op]) s) := by
  rw [history_navigates services settings s ops hop]
  generalize history services settings ops s = h
  constructor
  case restored => rfl
  case work =>
    rw [History.work_extend, if_pos hop, List.append_nil]
  case current =>
    cases op with
    | activate stage index => exact sameButCursors_activate h.current stage index
    | follow stage d => exact sameButCursors_follow h.current stage d
    | start | runCycle | edit | poll => cases hop
  case outside => rfl

/-- **An operation more** after two histories that differ in activations only. -/
theorem sameWork_concat {ops ops' : List Operation}
    (hsame : (history services settings ops s).SameWork (history services settings ops' s))
    (op : Operation) :
    (history services settings (ops ++ [op]) s).SameWork
      (history services settings (ops' ++ [op]) s) := by
  rw [history_concat, history_concat]
  generalize history services settings ops s = h at *
  generalize history services settings ops' s = h' at *
  obtain ⟨hanswer, hcurrent, houtside⟩ := hsame.current.perform services op h.outside
  constructor
  case restored => exact hsame.restored
  case work =>
    simp only [History.work_extend, hsame.work, hsame.outside]
    rw [hanswer]
  case current =>
    simp only [hsame.outside]
    exact hcurrent
  case outside =>
    simp only [hsame.outside]
    exact houtside

/-- **Activations can be left out**, one after another from the end. -/
theorem sameWork_filter (ops : List Operation) :
    (history services settings (ops.filter fun op => !op.navigates) s).SameWork
      (history services settings ops s) := by
  -- By the last operation: it is left out, or both histories go on with it.
  induction ops using List.reverseRecOn with
  | nil => exact ⟨rfl, rfl, .refl _, rfl⟩
  | append_singleton ops op ih =>
    cases hop : op.navigates with
    | true =>
      have hleft : (ops ++ [op]).filter (fun op => !op.navigates) =
          ops.filter fun op => !op.navigates := by simp [hop]
      rw [hleft]
      exact ih.trans (sameWork_navigates services settings s ops hop)
    | false =>
      have hkept : (ops ++ [op]).filter (fun op => !op.navigates) =
          ops.filter (fun op => !op.navigates) ++ [op] := by simp [hop]
      rw [hkept]
      exact sameWork_concat services settings s ih op

theorem sameWork_of_filter_eq {ops ops' : List Operation}
    (h : ops'.filter (fun op => !op.navigates) = ops.filter fun op => !op.navigates) :
    (history services settings ops s).SameWork (history services settings ops' s) := by
  have hall := sameWork_filter services settings s ops
  have hall' := sameWork_filter services settings s ops'
  rw [h] at hall'
  exact hall.symm.trans hall'

theorem oneFocus_current (ops : List Operation) :
    (history services settings ops s).current.OneFocus := by
  induction ops using List.reverseRecOn with
  | nil => rintro ⟨hgrammar, -⟩; cases hgrammar
  | append_singleton ops op ih =>
    obtain ⟨answer, outside, hh, -⟩ := history_react services settings ops op s
    rw [hh]
    exact oneFocus_react ih answer op

/-! ### The law -/

/-- **An activation moves a cursor and the focus, and nothing else.**  For all services,
    settings and operations: a finding of a stage can be followed exactly if it is one of
    those that are shown.  Then the cursor of that stage is where the finding is, also in
    a text that was edited since, the stage has the focus and the other one has not; else
    the pipeline stays as it is.  The outside has no part in it in either case.  At most
    one text has the focus at any time.  And if activations are put in or left out
    anywhere, then all other operations are answered as before, the analyzer is called
    with the same texts, and the pipeline is the same but for cursors and focus, the
    waiting edit and the time until it is due included. -/
theorem activation_moves_cursor_only (ops : List Operation) :
    let h := history services settings ops s
    let c := h.current
    (∀ stage index,
        let activated := c.activate stage index
        history services settings (ops ++ [.activate stage index]) s =
            h.extend ⟨.activate stage index, .target activated.1⟩ activated.2 h.outside ∧
          (activated.1.isSome ↔ index < (c.display.lists stage).length) ∧
          (∀ t, activated.1 = some t → ∃ d,
            (c.display.lists stage)[index]? = some d ∧ Followed c stage d t activated.2) ∧
          (activated.1 = none → activated.2 = c)) ∧
      (∀ stage d,
        let followed := c.follow stage d
        history services settings (ops ++ [.follow stage d]) s =
            h.extend ⟨.follow stage d, .target (some followed.1)⟩ followed.2 h.outside ∧
          Followed c stage d followed.1 followed.2) ∧
      c.OneFocus ∧
      ∀ ops', ops'.filter (fun op => !op.navigates) = ops.filter (fun op => !op.navigates) →
        let h' := history services settings ops' s
        h.SameWork h' ∧
          (∀ now, h'.current.timeUntilDue now = c.timeUntilDue now) ∧
          (history services.noting settings ops' ([], s)).outside =
            (history services.noting settings ops ([], s)).outside := by
  intro h c
  refine ⟨?_, ?_, oneFocus_current services settings s ops, ?_⟩
  · intro stage index activated
    refine ⟨history_navigates services settings s ops rfl, ?_⟩
    cases hd : (c.display.lists stage)[index]? with
    | none =>
      have hactivated : activated = (none, c) := activate_of_none hd
      have hle := List.getElem?_eq_none_iff.mp hd
      rw [hactivated]
      exact ⟨by simpa using hle, nofun, fun _ => rfl⟩
    | some d =>
      have hactivated : activated = (some (c.follow stage d).1, (c.follow stage d).2) :=
        activate_of_some hd
      obtain ⟨hlt, -⟩ := List.getElem?_eq_some_iff.mp hd
      rw [hactivated]
      refine ⟨iff_of_true rfl hlt, ?_, nofun⟩
      rintro t ht
      cases ht
      exact ⟨d, rfl, followed_follow c stage d⟩
  · intro stage d followed
    exact ⟨history_navigates services settings s ops rfl, followed_follow c stage d⟩
  · intro ops' hops h'
    have hsame : h.SameWork h' := sameWork_of_filter_eq services settings s hops
    have hnoting := sameWork_of_filter_eq services.noting settings ([], s) hops
    refine ⟨hsame, ?_, hnoting.outside⟩
    intro now
    rw [timeUntilDue, timeUntilDue, hsame.current.debouncer]

end Controller

end GrammarLint
