/-
  GrammarLint/Proofs/Pipeline/History.lean
  ========================================
  **Histories** — what happens to a pipeline from the moment it is restored, operation by
  operation, with services that have a state of their own and may do anything with it.

  A history keeps the restored pipeline, every operation with what it answered, and the
  pipeline and the outside as they are now.  Everything that is said about the past is
  read off the operations and their answers: the texts that a stage was edited to, the
  cycles that were run and the texts that they began with.  `history_concat` is one
  operation more; it is the induction step of all laws about histories.
-/
import GrammarLint.Proofs.Pipeline.Reaction
import Mathlib.Data.List.DropRight

namespace GrammarLint.Controller

/-- An operation and what it answered. -/
structure Moment where
  operation : Operation
  answer : Answer

/-- What has happened to a pipeline. -/
structure History (σ : Type) where
  /-- The pipeline before the first operation. -/
  restored : Controller
  /-- The operations in order, with their answers. -/
  moments : List Moment
  /-- The pipeline after the last operation. -/
  current : Controller
  /-- The outside after the last operation. -/
  outside : σ

/-- A history with one moment more. -/
def History.extend {σ : Type} (h : History σ) (m : Moment) (current : Controller) (outside : σ) :
    History σ :=
  ⟨h.restored, h.moments ++ [m], current, outside⟩

variable {σ : Type} (services : Services (StateM σ))

/-- The history of a pipeline that is restored and then asked for the operations `ops`, in
    an outside that is in state `s` at first. -/
def history (settings : Settings) (ops : List Operation) (s : σ) : History σ :=
  let first := (restore services settings).run s
  let last := (first.1.performAll services ops).run first.2
  ⟨first.1, List.zipWith Moment.mk ops last.1.1, last.1.2, last.2⟩

/-! ### One operation more -/

theorem performAll_concat (c : Controller) (ops : List Operation) (op : Operation) (s : σ) :
    (c.performAll services (ops ++ [op])).run s =
      let before := (c.performAll services ops).run s
      let last := (before.1.2.perform services op).run before.2
      ((before.1.1 ++ [last.1.1], last.1.2), last.2) := by
  induction ops generalizing c s with
  | nil => rfl
  | cons first rest ih =>
    simp only [List.cons_append, performAll, run_bind_state]
    rw [ih]
    rfl

theorem length_performAll (c : Controller) (ops : List Operation) (s : σ) :
    ((c.performAll services ops).run s).1.1.length = ops.length := by
  induction ops generalizing c s with
  | nil => rfl
  | cons first rest ih =>
    simp only [performAll, run_bind_state]
    exact congrArg (· + 1) (ih _ _)

/-- **One operation more.**  The pipeline of the history carries it out. -/
theorem history_concat (settings : Settings) (ops : List Operation) (op : Operation) (s : σ) :
    history services settings (ops ++ [op]) s =
      let h := history services settings ops s
      let last := (h.current.perform services op).run h.outside
      h.extend ⟨op, last.1.1⟩ last.1.2 last.2 := by
  have hlength := length_performAll services ((restore services settings).run s).1 ops
    ((restore services settings).run s).2
  simp only [history, performAll_concat]
  rw [List.zipWith_append hlength.symm]
  rfl

/-- The operations of a history are those that were asked for. -/
theorem operations_history (settings : Settings) (ops : List Operation) (s : σ) :
    (history services settings ops s).moments.map (·.operation) = ops := by
  induction ops using List.reverseRecOn with
  | nil => rfl
  | append_singleton ops op ih =>
    rw [history_concat, History.extend, List.map_append, ih]
    rfl

/-- What it carries out is a reaction to an answer of the analyzer, which is missing in a
    cycle exactly if there is no grammar. -/
theorem history_react (settings : Settings) (ops : List Operation) (op : Operation) (s : σ) :
    let h := history services settings ops s
    ∃ answer outside, history services settings (ops ++ [op]) s =
        h.extend ⟨op, (h.current.react answer op).1⟩ (h.current.react answer op).2 outside ∧
      (h.current.runsCycle op → answer.isNone = h.current.grammar.text.isEmpty) := by
  intro h
  obtain ⟨answer, hrun, hnone⟩ := perform_run services h.current op h.outside
  refine ⟨answer, ((h.current.effects services op).run h.outside).2, ?_, hnone⟩
  rw [history_concat]
  simp only [h] at hrun ⊢
  rw [hrun]

/-! ### What the operations tell about the past -/

/-- The text that an operation edits a stage to, if it does. -/
def Operation.edits? (stage : Stage) : Operation → Option String
  | .edit edited text _ => if edited = stage then some text else none
  | _ => none

/-- The text that a stage was edited to last. -/
def lastEdit (stage : Stage) (moments : List Moment) : Option String :=
  (moments.filterMap (·.operation.edits? stage)).getLast?

namespace History

variable {σ : Type}

/-- The text of a stage after some moments: that of its last edit, or the restored one if
    it was never edited. -/
def textAfter (h : History σ) (moments : List Moment) (stage : Stage) : String :=
  (lastEdit stage moments).getD (h.restored.buffer stage).text

/-- The texts of both stages after some moments. -/
def textsAfter (h : History σ) (moments : List Moment) : String × String :=
  (h.textAfter moments .grammar, h.textAfter moments .code)

/-- The texts that each cycle began with, in the order of the cycles. -/
def cycleTexts (h : History σ) : List (String × String) :=
  (List.range h.moments.length).filterMap fun i =>
    (h.moments[i]?.bind (·.answer.cycle?)).map fun _ => h.textsAfter (h.moments.take i)

end History

theorem lastEdit_concat (stage : Stage) (moments : List Moment) (m : Moment) :
    lastEdit stage (moments ++ [m]) = (m.operation.edits? stage).or (lastEdit stage moments) := by
  simp only [lastEdit, List.filterMap_append]
  rcases h : m.operation.edits? stage with _ | text
  · simp [h]
  · simp [h]

/-- The texts of a further cycle are those after all that happened before it. -/
theorem cycleTexts_extend (h : History σ) (m : Moment) (c : Controller) (s : σ) :
    (h.extend m c s).cycleTexts =
      h.cycleTexts ++ (m.answer.cycle?.map fun _ => h.textsAfter h.moments).toList := by
  simp only [History.cycleTexts, History.extend, List.length_append, List.length_singleton,
    List.range_succ, List.filterMap_append]
  congr 1
  · refine List.filterMap_congr fun i hi => ?_
    have hlt : i < h.moments.length := List.mem_range.mp hi
    rw [List.getElem?_append_left hlt, List.take_append_of_le_length (Nat.le_of_lt hlt)]
    rfl
  · rcases hm : m.answer.cycle? with _ | o
    · simp [hm]
    · simp [hm]
      rfl

/-- **Buffers hold the last edits.** -/
theorem text_current (settings : Settings) (ops : List Operation) (s : σ) (stage : Stage) :
    let h := history services settings ops s
    (h.current.buffer stage).text = h.textAfter h.moments stage := by
  induction ops using List.reverseRecOn with
  | nil => rfl
  | append_singleton ops op ih =>
    obtain ⟨answer, outside, hh, -⟩ := history_react services settings ops op s
    simp only [hh, History.extend, History.textAfter, lastEdit_concat] at ih ⊢
    have hr := reaction_react (history services settings ops s).current answer op
    generalize ((history services settings ops s).current.react answer op).1 = a at hr
    generalize ((history services settings ops s).current.react answer op).2 = c' at hr
    cases hr with
    | start | runCycle | due => simpa [Operation.edits?] using ih
    | early => exact ih
    | activate _ _ _ _ hsame | follow _ _ _ _ hsame =>
      simpa [Operation.edits?, hsame.text] using ih
    | edit edited text now =>
      by_cases hs : edited = stage
      · subst hs
        simp [Operation.edits?, Buffer.edit]
      · simpa [Operation.edits?, hs, edited_buffer_of_ne] using ih

end GrammarLint.Controller
