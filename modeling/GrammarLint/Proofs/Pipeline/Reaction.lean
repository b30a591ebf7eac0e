/-
  GrammarLint/Proofs/Pipeline/Reaction.lean
  =========================================
  **Operations as reactions** — every operation of a pipeline is a plain function of its
  state and of what the analyzer answers.

  The services reach the state of a pipeline in one place only: the answer of the
  analyzer inside a cycle.  `effects` is all that an operation does outside, `react` is
  all that it does to the pipeline, and `perform_eq` says that an operation is the one
  followed by the other, in every lawful monad.  Laws about states are proved about
  `react`, with one case for each operation, and never look at the services again.
-/
import GrammarLint.Pipeline.Controller
import GrammarLint.Proofs.Pipeline.Debouncer
import GrammarLint.Proofs.Run

namespace GrammarLint.Controller

/-! ### Cycles -/

/-- What a cycle makes of a pipeline, given the answer of the analyzer if it was asked. -/
def cycled (c : Controller) (answer : Option (Except AnalysisError AnalysisResult)) :
    Outcome × Controller :=
  ((c.begin.conclude answer).1, (c.begin.conclude answer).2.settle)

section Cycled

variable (c : Controller) (answer : Option (Except AnalysisError AnalysisResult))

@[simp] theorem cycled_settings : (c.cycled answer).2.settings = c.settings := by
  rcases answer with _ | _ | _ <;> rfl

@[simp] theorem cycled_grammar : (c.cycled answer).2.grammar = c.grammar := by
  rcases answer with _ | _ | _ <;> rfl

@[simp] theorem cycled_code : (c.cycled answer).2.code = c.code := by
  rcases answer with _ | _ | _ <;> rfl

@[simp] theorem cycled_buffer (stage : Stage) :
    (c.cycled answer).2.buffer stage = c.buffer stage := by
  cases stage <;> simp [buffer]

@[simp] theorem cycled_debouncer : (c.cycled answer).2.debouncer = c.debouncer := by
  rcases answer with _ | _ | _ <;> rfl

theorem cycled_phase : (c.cycled answer).2.phase =
    if c.debouncer.isPending then .pending else .rendered := by
  rcases answer with _ | _ | _ <;> rfl

@[simp] theorem cycled_cycles : (c.cycled answer).2.cycles = c.cycles + 1 := by
  rcases answer with _ | _ | _ <;> rfl

/-- A cycle counts as a call of the analyzer exactly if there is an answer. -/
@[simp] theorem cycled_invocations :
    (c.cycled answer).2.invocations = c.invocations + (if answer.isSome then 1 else 0) := by
  rcases answer with _ | _ | _ <;> rfl

/-- A cycle ends as empty exactly if there is no answer. -/
theorem cycled_outcome_eq_empty : (c.cycled answer).1 = .empty ↔ answer = none := by
  rcases answer with _ | _ | _ <;> simp [cycled, conclude]

end Cycled

/-! ### Edits -/

/-- What an edit makes of a pipeline. -/
def edited (c : Controller) (stage : Stage) (text : String) (now : Nat) : Controller :=
  let c := c.updateBuffer (·.edit text) stage
  let version := (c.buffer stage).version
  { c with debouncer := (c.debouncer.schedule ⟨stage, version⟩ now).2, phase := .pending }

section Edited

variable (c : Controller) (stage : Stage) (text : String) (now : Nat)

@[simp] theorem edited_settings : (c.edited stage text now).settings = c.settings := by
  cases stage <;> rfl

@[simp] theorem edited_buffer_self :
    (c.edited stage text now).buffer stage = (c.buffer stage).edit text := by
  cases stage <;> rfl

theorem edited_buffer_of_ne {stage other : Stage} (h : stage ≠ other) :
    (c.edited stage text now).buffer other = c.buffer other := by
  cases stage <;> cases other <;> first | rfl | exact absurd rfl h

@[simp] theorem edited_debouncer :
    (c.edited stage text now).debouncer =
      { c.debouncer with
        pending := some ⟨⟨stage, ((c.buffer stage).edit text).version⟩,
          now + c.debouncer.delay⟩ } := by
  cases stage <;> rfl

@[simp] theorem edited_cycles : (c.edited stage text now).cycles = c.cycles := by
  cases stage <;> rfl

@[simp] theorem edited_invocations :
    (c.edited stage text now).invocations = c.invocations := by
  cases stage <;> rfl

end Edited

/-! ### Cursor moves -/

/-- Two states of a pipeline that differ in cursors and focus only. -/
structure SameButCursors (c c' : Controller) : Prop where
  settings : c'.settings = c.settings
  text : ∀ stage, (c'.buffer stage).text = (c.buffer stage).text
  version : ∀ stage, (c'.buffer stage).version = (c.buffer stage).version
  debouncer : c'.debouncer = c.debouncer
  phase : c'.phase = c.phase
  display : c'.display = c.display
  cycles : c'.cycles = c.cycles
  invocations : c'.invocations = c.invocations

theorem SameButCursors.refl (c : Controller) : SameButCursors c c := by
  constructor <;> intros <;> rfl

theorem sameButCursors_follow (c : Controller) (stage : Stage) (d : Diagnostic) :
    SameButCursors c (c.follow stage d).2 := by
  constructor
  case text => intro other; cases stage <;> cases other <;> rfl
  case version => intro other; cases stage <;> cases other <;> rfl
  all_goals cases stage <;> rfl

theorem sameButCursors_activate (c : Controller) (stage : Stage) (index : Nat) :
    SameButCursors c (c.activate stage index).2 := by
  unfold activate
  split
  · exact .refl c
  · next d _ => exact sameButCursors_follow c stage d

/-! ### Operations -/

/-- What an operation makes of a pipeline and answers, given the answer of the analyzer
    for the case that it runs a cycle. -/
def react (c : Controller) (answer : Option (Except AnalysisError AnalysisResult)) :
    Operation → Answer × Controller
  | .start => (.outcome (c.cycled answer).1, (c.cycled answer).2)
  | .runCycle => (.outcome (c.cycled answer).1, (c.cycled answer).2)
  | .edit stage text now =>
    (.version ((c.edited stage text now).buffer stage).version, c.edited stage text now)
  | .poll now =>
    match c.debouncer.takeDue now with
    | (none, _) => (.polled none, c)
    | (some _, debouncer) =>
      let (outcome, c) := { c with debouncer }.cycled answer
      (.polled (some outcome), c)
  | .activate stage index => (.target (c.activate stage index).1, (c.activate stage index).2)
  | .follow stage d => (.target (some (c.follow stage d).1), (c.follow stage d).2)

/-- The outcome of the cycle that an answer tells of, if it does. -/
def Answer.cycle? : Answer → Option Outcome
  | .outcome o => some o
  | .polled o => o
  | .version _ => none
  | .target _ => none

/-- The pipeline with the waiting edit taken. -/
def disarmed (c : Controller) : Controller := { c with debouncer := c.debouncer.disarmed }

@[simp] theorem disarmed_buffer (c : Controller) (stage : Stage) :
    c.disarmed.buffer stage = c.buffer stage := by
  cases stage <;> rfl

theorem react_poll_of_not_due {c : Controller} {now : Nat} (h : ¬ c.debouncer.Due now)
    (answer : Option (Except AnalysisError AnalysisResult)) :
    c.react answer (.poll now) = (.polled none, c) := by
  rw [react, Debouncer.takeDue_of_not_due h]

theorem react_poll_of_due {c : Controller} {now : Nat} (h : c.debouncer.Due now)
    (answer : Option (Except AnalysisError AnalysisResult)) :
    c.react answer (.poll now) =
      (.polled (some (c.disarmed.cycled answer).1), (c.disarmed.cycled answer).2) := by
  obtain ⟨p, hp, hle⟩ := h
  rw [react, Debouncer.takeDue_of_pending hp hle]
  rfl

/-- **All that can happen.**  The answer and the next state for every operation, the
    polls split into those that fire and those that do not. -/
inductive Reaction (c : Controller) (answer : Option (Except AnalysisError AnalysisResult)) :
    Operation → Answer → Controller → Prop
  | start : Reaction c answer .start (.outcome (c.cycled answer).1) (c.cycled answer).2
  | runCycle : Reaction c answer .runCycle (.outcome (c.cycled answer).1) (c.cycled answer).2
  | edit (stage : Stage) (text : String) (now : Nat) :
    Reaction c answer (.edit stage text now)
      (.version ((c.edited stage text now).buffer stage).version) (c.edited stage text now)
  | early (now : Nat) (h : ¬ c.debouncer.Due now) :
    Reaction c answer (.poll now) (.polled none) c
  | due (now : Nat) (h : c.debouncer.Due now) :
    Reaction c answer (.poll now) (.polled (some (c.disarmed.cycled answer).1))
      (c.disarmed.cycled answer).2
  | activate (stage : Stage) (index : Nat) (t : Option Target) (c' : Controller)
    (h : SameButCursors c c') : Reaction c answer (.activate stage index) (.target t) c'
  | follow (stage : Stage) (d : Diagnostic) (t : Option Target) (c' : Controller)
    (h : SameButCursors c c') : Reaction c answer (.follow stage d) (.target t) c'

theorem reaction_react (c : Controller)
    (answer : Option (Except AnalysisError AnalysisResult)) (op : Operation) :
    Reaction c answer op (c.react answer op).1 (c.react answer op).2 := by
  cases op with
  | start => exact .start
  | runCycle => exact .runCycle
  | edit stage text now => exact .edit stage text now
  | poll now =>
    by_cases h : c.debouncer.Due now
    · rw [react_poll_of_due h]
      exact .due now h
    · rw [react_poll_of_not_due h]
      exact .early now h
  | activate stage index => exact .activate stage index _ _ (sameButCursors_activate c stage index)
  | follow stage d => exact .follow stage d _ _ (sameButCursors_follow c stage d)

/-- Whether an operation runs a cycle. -/
def runsCycle (c : Controller) : Operation → Bool
  | .start => true
  | .runCycle => true
  | .poll now => c.debouncer.Due now
  | _ => false

/-- Exactly the operations that run a cycle answer with its outcome. -/
theorem isSome_cycle?_react (c : Controller)
    (answer : Option (Except AnalysisError AnalysisResult)) (op : Operation) :
    (c.react answer op).1.cycle?.isSome = c.runsCycle op := by
  have hr := reaction_react c answer op
  generalize (c.react answer op).1 = a at hr
  generalize (c.react answer op).2 = c' at hr
  cases hr with
  | start | runCycle | edit | activate | follow => rfl
  | early now h | due now h => simp [Answer.cycle?, runsCycle, h]

/-! ### Operations and their effects -/

variable {m : Type → Type} [Monad m]

/-- The event at the end of a cycle. -/
def finishedEvent (c : Controller) : Event :=
  .finished c.cycles c.display.grammar.badge c.display.code.badge

/-- Everything that a cycle does outside; answers what the analyzer answered. -/
def attend (services : Services m) (c : Controller) :
    m (Option (Except AnalysisError AnalysisResult)) := do
  persist services c.settings.grammarKey c.grammar.text
  persist services c.settings.codeKey c.code.text
  let answer ← consult services c.snapshot
  services.log (c.cycled answer).2.finishedEvent
  return answer

/-- Everything that an operation does outside; answers what the analyzer answered. -/
def effects (services : Services m) (c : Controller) :
    Operation → m (Option (Except AnalysisError AnalysisResult))
  | .start => do
    services.log (.starting c.grammar.text.utf8ByteSize c.code.text.utf8ByteSize)
    c.attend services
  | .runCycle => c.attend services
  | .edit stage text _ => do
    services.log (.scheduled stage ((c.buffer stage).edit text).version c.debouncer.isPending)
    return none
  | .poll now =>
    match c.debouncer.takeDue now with
    | (none, _) => return none
    | (some trigger, debouncer) => do
      services.log (.elapsed trigger.stage trigger.version)
      { c with debouncer }.attend services
  | .activate _ _ => return none
  | .follow _ _ => return none

theorem effects_poll_of_not_due (services : Services m) {c : Controller} {now : Nat}
    (h : ¬ c.debouncer.Due now) : c.effects services (.poll now) = pure none := by
  rw [effects, Debouncer.takeDue_of_not_due h]

/-- A poll that fires takes the waiting edit before its cycle begins. -/
theorem effects_poll_of_pending (services : Services m) {c : Controller} {now : Nat}
    {p : Pending Trigger} (hp : c.debouncer.pending = some p) (hle : p.deadline ≤ now) :
    c.effects services (.poll now) = (do
      services.log (.elapsed p.action.stage p.action.version)
      c.disarmed.attend services) := by
  rw [effects, Debouncer.takeDue_of_pending hp hle]
  rfl

theorem runCycle_eq [LawfulMonad m] (services : Services m) (c : Controller) :
    c.runCycle services = c.cycled <$> c.attend services := by
  simp only [runCycle, attend, map_eq_pure_bind, bind_assoc, pure_bind]
  rfl

theorem edit_eq [LawfulMonad m] (services : Services m) (c : Controller) (stage : Stage)
    (text : String) (now : Nat) :
    c.edit services stage text now =
      (fun _ => (((c.edited stage text now).buffer stage).version, c.edited stage text now)) <$>
        c.effects services (.edit stage text now) := by
  simp only [edit, effects, map_eq_pure_bind, bind_assoc, pure_bind]
  cases stage <;> rfl

/-- **An operation is its effects followed by its reaction.** -/
theorem perform_eq [LawfulMonad m] (services : Services m) (c : Controller) (op : Operation) :
    c.perform services op = (c.react · op) <$> c.effects services op := by
  cases op with
  | start =>
    simp only [perform, start, react, effects, runCycle_eq, map_eq_pure_bind, bind_assoc, pure_bind]
  | runCycle =>
    simp only [perform, react, effects, runCycle_eq, map_eq_pure_bind, bind_assoc, pure_bind]
  | edit stage text now =>
    simp only [perform, react, edit_eq, map_eq_pure_bind, bind_assoc, pure_bind]
  | poll now =>
    -- Both sides look at what is due before they do anything.
    rcases h : c.debouncer.takeDue now with ⟨_ | trigger, debouncer⟩
    · simp only [perform, poll, react, effects, h, map_pure, pure_bind]
    · simp only [perform, poll, react, effects, h, runCycle_eq, map_eq_pure_bind, bind_assoc,
        pure_bind]
  | activate stage index => simp only [perform, react, effects, map_pure]
  | follow stage d => simp only [perform, react, effects, map_pure]

/-! ### Services with a state -/

section State

variable {σ : Type} (services : Services (StateM σ))

/-- The analyzer is asked exactly if there is a grammar. -/
theorem isNone_consult (snapshot : Snapshot) (s : σ) :
    ((consult services snapshot).run s).1.isNone = snapshot.grammar.isEmpty := by
  unfold consult
  cases h : snapshot.grammar.isEmpty
  · simp only [Bool.false_eq_true, if_false, run_bind_state]
    split <;> rfl
  · rfl

theorem isNone_attend (c : Controller) (s : σ) :
    ((c.attend services).run s).1.isNone = c.grammar.text.isEmpty := by
  simp only [attend, run_bind_state]
  exact isNone_consult services c.snapshot _

/-- There is an answer exactly if an operation runs a cycle that has a grammar. -/
theorem isNone_effects (c : Controller) (op : Operation) (s : σ) :
    ((c.effects services op).run s).1.isNone = (!c.runsCycle op || c.grammar.text.isEmpty) := by
  cases op with
  | start => exact isNone_attend services c _
  | runCycle => exact isNone_attend services c _
  | poll now =>
    by_cases hdue : c.debouncer.Due now
    · have hruns : c.runsCycle (.poll now) = true := by simp [runsCycle, hdue]
      obtain ⟨p, hp, hle⟩ := hdue
      rw [effects_poll_of_pending services hp hle, hruns]
      exact isNone_attend services c.disarmed _
    · have hruns : c.runsCycle (.poll now) = false := by simp [runsCycle, hdue]
      rw [effects_poll_of_not_due services hdue, hruns]
      rfl
  | edit stage text now => rfl
  | activate stage index => rfl
  | follow stage d => rfl

/-- An operation is the reaction to what its effects answer. -/
theorem perform_run_eq (c : Controller) (op : Operation) (s : σ) :
    (c.perform services op).run s =
      (c.react ((c.effects services op).run s).1 op, ((c.effects services op).run s).2) := by
  rw [perform_eq]
  rfl

/-- **One operation.**  It is a reaction to some answer of the analyzer, and if it runs a
    cycle, then there is no answer exactly if there is no grammar. -/
theorem perform_run (c : Controller) (op : Operation) (s : σ) :
    ∃ answer, (c.perform services op).run s =
        (c.react answer op, ((c.effects services op).run s).2) ∧
      (c.runsCycle op → answer.isNone = c.grammar.text.isEmpty) := by
  refine ⟨((c.effects services op).run s).1, perform_run_eq services c op s, ?_⟩
  intro hcycle
  rw [isNone_effects, hcycle]
  rfl

end State

end GrammarLint.Controller
