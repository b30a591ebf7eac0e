/-
  GrammarLint/Proofs/Pipeline/Phase.lean
  ======================================
  **What the phase and the counters tell** — the phase of a pipeline between two
  operations, said of the operations so far and of what they answered.

  The phase and the debouncer are separate fields, and different operations set them: an
  edit arms the one and names the other, a poll disarms before its cycle, a cycle that is
  asked for leaves an armed debouncer alone.  What all of them keep is that the phase can be
  told from the debouncer and from the number of cycles (`phase_react`).  That the pipeline
  is idle says that there were no edits either, and this goes back to the debouncer, which
  is armed for the edit that is awaited: without any cycle nothing was taken from it.
-/
import GrammarLint.Proofs.Pipeline.Window

namespace GrammarLint.Controller

variable {σ : Type} (services : Services (StateM σ))

/-! ### One operation -/

/-- The phase that the debouncer and the counter of a pipeline tell. -/
def toldPhase (c : Controller) : Phase :=
  if c.debouncer.isPending then .pending else if c.cycles = 0 then .idle else .rendered

theorem toldPhase_cycled (c : Controller)
    (answer : Option (Except AnalysisError AnalysisResult)) :
    (c.cycled answer).2.phase = (c.cycled answer).2.toldPhase := by
  rw [cycled_phase, toldPhase, cycled_debouncer, cycled_cycles]
  simp

/-- **The phase goes on to be told** by the debouncer and the counter. -/
theorem phase_react (c : Controller) (answer : Option (Except AnalysisError AnalysisResult))
    (op : Operation) (h : c.phase = c.toldPhase) :
    (c.react answer op).2.phase = (c.react answer op).2.toldPhase := by
  have hr := reaction_react c answer op
  generalize (c.react answer op).1 = a at hr
  generalize (c.react answer op).2 = c' at hr ⊢
  cases hr with
  | start | runCycle => exact toldPhase_cycled c answer
  | due now hdue => exact toldPhase_cycled c.disarmed answer
  | early now hdue => exact h
  | edit stage text now =>
    have harmed : (c.edited stage text now).debouncer.isPending = true := by
      rw [edited_debouncer]
      rfl
    rw [toldPhase, if_pos harmed]
    cases stage <;> rfl
  | activate _ _ _ _ hsame | follow _ _ _ _ hsame =>
    rw [hsame.phase, h, toldPhase, toldPhase, hsame.debouncer, hsame.cycles]

/-- The operations that run a cycle whatever the state is. -/
def Operation.forces : Operation → Bool
  | .start => true
  | .runCycle => true
  | _ => false

/-- An operation counts as an edit of one stage, or of none. -/
theorem version_react (c : Controller) (answer : Option (Except AnalysisError AnalysisResult))
    (op : Operation) (stage : Stage) :
    ((c.react answer op).2.buffer stage).version =
      (c.buffer stage).version + (if (op.edits? stage).isSome then 1 else 0) := by
  have hr := reaction_react c answer op
  generalize (c.react answer op).1 = a at hr
  generalize (c.react answer op).2 = c' at hr ⊢
  cases hr with
  | start | runCycle | due => simp [Operation.edits?]
  | early => simp [Operation.edits?]
  | activate _ _ _ _ hsame | follow _ _ _ _ hsame => simp [Operation.edits?, hsame.version]
  | edit edited text now =>
    by_cases hs : edited = stage
    · subst hs
      simp [Operation.edits?, Buffer.edit]
    · simp [Operation.edits?, hs, edited_buffer_of_ne]

/-- A cycle is counted, whether it was asked for or came of a poll. -/
theorem cycles_of_reaction {c c' : Controller}
    {answer : Option (Except AnalysisError AnalysisResult)} {op : Operation} {a : Answer}
    (hr : Reaction c answer op a c') :
    c'.cycles = c.cycles + (if a.cycle?.isSome then 1 else 0) ∧
      (if a.cycle?.isSome then 1 else 0) =
        (if op.forces then 1 else 0) + (if Moment.fired ⟨op, a⟩ then 1 else 0) := by
  cases hr with
  | start | runCycle => simp [Answer.cycle?, Operation.forces, Moment.fired]
  | due now hdue => simp [Answer.cycle?, Operation.forces, Moment.fired, disarmed]
  | early | edit => simp [Answer.cycle?, Operation.forces, Moment.fired]
  | activate _ _ _ _ hsame | follow _ _ _ _ hsame =>
    simp [Answer.cycle?, Operation.forces, Moment.fired, hsame.cycles]

/-! ### All operations so far -/

/-- How many cycles were run, by what was answered. -/
def History.answeredCycles (h : History σ) : Nat :=
  h.moments.countP (·.answer.cycle?.isSome)

/-- What the phase and the counters of a pipeline say about its past. -/
structure Tallied (ops : List Operation) (h : History σ) : Prop where
  phase : h.current.phase = h.current.toldPhase
  version : ∀ stage, (h.current.buffer stage).version =
    ops.countP fun op => (op.edits? stage).isSome
  cycles : h.current.cycles = h.answeredCycles
  forced : h.answeredCycles = ops.countP Operation.forces + h.pollCycles

theorem tallied_history (settings : Settings) (ops : List Operation) (s : σ) :
    Tallied ops (history services settings ops s) := by
  induction ops using List.reverseRecOn with
  | nil =>
    constructor
    · rfl
    · intro stage
      cases stage <;> rfl
    · rfl
    · rfl
  | append_singleton ops op ih =>
    obtain ⟨answer, outside, hh, -⟩ := history_react services settings ops op s
    rw [hh]
    generalize history services settings ops s = h at *
    obtain ⟨hcounted, hsplit⟩ := cycles_of_reaction (reaction_react h.current answer op)
    have hcycles := ih.cycles
    have hforced := ih.forced
    constructor
    · exact phase_react h.current answer op ih.phase
    · intro stage
      have hversion := version_react h.current answer op stage
      rw [ih.version stage] at hversion
      rw [List.countP_append, List.countP_singleton]
      exact hversion
    · simp only [History.extend, History.answeredCycles, List.countP_append,
        List.countP_singleton] at hcycles ⊢
      omega
    · simp only [History.extend, History.answeredCycles, History.pollCycles, List.countP_append,
        List.countP_singleton] at hforced ⊢
      omega

theorem answeredCycles_eq_zero_iff {h : History σ} :
    h.answeredCycles = 0 ↔ ∀ m ∈ h.moments, m.answer.cycle? = none := by
  simp [History.answeredCycles, List.countP_eq_zero]

/-- Without any cycle the debouncer is armed exactly if there was an edit. -/
theorem isPending_of_no_cycle (settings : Settings) (ops : List Operation) (s : σ)
    (hnone : ∀ m ∈ (history services settings ops s).moments, m.answer.cycle? = none) :
    (history services settings ops s).current.debouncer.isPending = false ↔
      ∀ op ∈ ops, op.editAt? = none := by
  have hset := debouncer_current services settings ops s
  have hops := operations_history services settings ops s
  generalize history services settings ops s = h at *
  have hquiet : ∀ m ∈ h.moments, m.fired = false := by
    intro m hm
    have hcycle := hnone m hm
    unfold Moment.fired
    split
    · next o ho =>
      rw [ho] at hcycle
      cases hcycle
    · rfl
  have hawaited : awaited h.moments = latestEdit ops := by
    have hall : awaited ([] ++ h.moments) = _ := awaited_append hquiet
    rw [List.nil_append, hops] at hall
    rw [hall]
    exact Option.or_none
  rw [← latestEdit_eq_none_iff, ← hawaited, Debouncer.isPending, hset, Option.isSome_map]
  simp

/-! ### The law -/

/-- **What the phase and the counters tell.**  For all services, settings and operations at
    all times: between operations the pipeline is never analyzing; it is pending exactly if
    the debouncer is armed, idle exactly if no cycle was run and no edit was made, and
    rendered exactly if the debouncer is not armed and a cycle was run.  The version of a
    text is the number of its edits, and the counter of cycles is the number of those that
    were asked for and of the polls that fired. -/
theorem phase_tells_history (settings : Settings) (ops : List Operation) (s : σ) :
    let h := history services settings ops s
    let c := h.current
    h.moments.map (·.operation) = ops ∧
      c.phase ≠ .analyzing ∧
      (c.phase = .pending ↔ c.debouncer.isPending = true) ∧
      (c.phase = .idle ↔
        (∀ m ∈ h.moments, m.answer.cycle? = none) ∧ ∀ op ∈ ops, op.editAt? = none) ∧
      (c.phase = .rendered ↔
        c.debouncer.isPending = false ∧ ∃ m ∈ h.moments, m.answer.cycle?.isSome) ∧
      (∀ stage, (c.buffer stage).version = ops.countP fun op => (op.edits? stage).isSome) ∧
      c.cycles = ops.countP Operation.forces + h.pollCycles := by
  intro h c
  have htallied : Tallied ops h := tallied_history services settings ops s
  have hzero : c.cycles = 0 ↔ ∀ m ∈ h.moments, m.answer.cycle? = none := by
    rw [← answeredCycles_eq_zero_iff, ← htallied.cycles]
  have hidle := isPending_of_no_cycle services settings ops s
  refine ⟨operations_history services settings ops s, ?_, ?_, ?_, ?_, htallied.version,
    htallied.cycles.trans htallied.forced⟩
  · rw [htallied.phase, toldPhase]
    split
    · simp
    · split <;> simp
  · rw [htallied.phase, toldPhase]
    split
    · next harmed => simp [c, harmed]
    · next harmed => split <;> simp [c, harmed]
  · rw [htallied.phase, toldPhase]
    constructor
    · intro hphase
      split at hphase
      · cases hphase
      · next harmed =>
        split at hphase
        · next hcycles =>
          have hnone := hzero.mp hcycles
          exact ⟨hnone, (hidle hnone).mp (Bool.eq_false_iff.mpr harmed)⟩
        · cases hphase
    · rintro ⟨hnone, hedits⟩
      have harmed : c.debouncer.isPending = false := (hidle hnone).mpr hedits
      rw [if_neg (Bool.eq_false_iff.mp harmed), if_pos (hzero.mpr hnone)]
  · have hsome : c.cycles ≠ 0 ↔ ∃ m ∈ h.moments, m.answer.cycle?.isSome := by
      rw [ne_eq, hzero]
      push Not
      simp only [Option.isSome_iff_ne_none]
    rw [htallied.phase, toldPhase, ← hsome]
    split
    · next harmed => simp [c, harmed]
    · next harmed =>
      have hquiet : c.debouncer.isPending = false := Bool.eq_false_iff.mpr harmed
      split
      · next hcycles => simp [c, hcycles]
      · next hcycles => simp [hquiet, c, hcycles]

end GrammarLint.Controller
