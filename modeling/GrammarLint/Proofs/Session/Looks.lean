/-
  GrammarLint/Proofs/Session/Looks.lean
  =====================================
  **A session as a row of looks at two files** — what each look found and whether it ended
  with a cycle, without the machine that it was done on.

  `Look.Leads` is all that a look can make of a pipeline: each file that could be read and
  has another text is an edit, and if an edit is waiting then, there may be a cycle, which
  takes it.  `Path` is a row of looks that goes on until there were enough cycles.

  A pipeline has the texts that were read last (`Path.texts`), so that cycles are run on
  them.  That a cycle has a reason is an invariant of the waiting edit: if one waits after a
  look, then some text that was read since the last cycle was another one, or it had been
  waiting all the time (`Path.reason`).
-/
import GrammarLint.Proofs.Session.Watch

namespace GrammarLint

open Sandbox

/-! ### Cycles and looks -/

/-- A cycle: the pipeline after it, and how it ended. -/
structure Cycle where
  pipeline : Controller
  outcome : Outcome

namespace Cycle

/-- The texts that a cycle was run on. -/
def texts (cycle : Cycle) : String × String :=
  (cycle.pipeline.grammar.text, cycle.pipeline.code.text)

def number (cycle : Cycle) : Nat := cycle.pipeline.cycles

def report (cycle : Cycle) (format : Format) (names : Stage → String) : List Chunk :=
  GrammarLint.report format names cycle.pipeline cycle.outcome

end Cycle

/-- A look at the two files: the texts that could be read, and the cycle at the end of it, if
    there is one. -/
structure Look where
  found : Stage → Option String
  cycle : Option Cycle

/-- The cycles of some looks. -/
def cyclesOf (looks : List Look) : List Cycle := looks.filterMap (·.cycle)

/-- The cycle at the end of a look, by the number of the looks before it. -/
def cycleAt (looks : List Look) (i : Nat) : Option Cycle := looks[i]?.bind (·.cycle)

/-- The text of a stage after some looks: the one that was read last, or the one there was
    before if none could be read. -/
def textAfter (before : Stage → String) (looks : List Look) (stage : Stage) : String :=
  ((looks.filterMap (·.found stage)).getLast?).getD (before stage)

theorem textAfter_cons (before : Stage → String) (look : Look) (looks : List Look) (stage : Stage) :
    textAfter before (look :: looks) stage =
      textAfter (fun stage => (look.found stage).getD (before stage)) looks stage := by
  simp only [textAfter, List.filterMap_cons]
  cases look.found stage with
  | none => rfl
  | some text => rw [List.getLast?_cons]; rfl

/-- Whether a look finds a text that is not the one there was. -/
def Look.Finds (look : Look) (before : Stage → String) : Prop :=
  ∃ stage text, look.found stage = some text ∧ text ≠ before stage

/-! ### One look -/

namespace Session

theorem Reread.texts {onDisk : Option String} {stage : Stage} {c c' : Controller}
    (h : Reread onDisk stage c c') :
    c'.texts stage = onDisk.getD (c.texts stage) ∧
      ∀ other, other ≠ stage → c'.texts other = c.texts other := by
  cases h with
  | same h =>
    refine ⟨?_, fun _ _ => rfl⟩
    cases onDisk with
    | none => rfl
    | some text => exact (h text rfl).symm
  | @edited text now h hne =>
    subst h
    refine ⟨?_, ?_⟩
    · exact congrArg Buffer.text (c.edited_buffer_self stage text now)
    · intro other hother
      exact congrArg Buffer.text (c.edited_buffer_of_ne text now hother.symm)

/-- An edit waits because there is one, or because it did before. -/
theorem Reread.reason {onDisk : Option String} {stage : Stage} {c c' : Controller}
    (h : Reread onDisk stage c c') (hpending : c'.debouncer.isPending) :
    c.debouncer.isPending ∨ ∃ text, onDisk = some text ∧ text ≠ c.texts stage := by
  cases h with
  | same h => exact .inl hpending
  | edited now h hne => exact .inr ⟨_, h, hne⟩

end Session

open Session (Reread)

/-- **What a look makes of a pipeline.** -/
inductive Look.Leads (look : Look) (c : Controller) : Controller → Prop
  | waited {c₁ c₂ : Controller} (hgrammar : Reread (look.found .grammar) .grammar c c₁)
    (hcode : Reread (look.found .code) .code c₁ c₂) (hcycle : look.cycle = none) :
    Leads look c c₂
  | cycled {c₁ c₂ : Controller} (hgrammar : Reread (look.found .grammar) .grammar c c₁)
    (hcode : Reread (look.found .code) .code c₁ c₂) (hpending : c₂.debouncer.isPending)
    (answer : Option (Except AnalysisError AnalysisResult))
    (hcycle : look.cycle =
      some ⟨(c₂.disarmed.cycled answer).2, (c₂.disarmed.cycled answer).1⟩) :
    Leads look c (c₂.disarmed.cycled answer).2

namespace Look.Leads

variable {look : Look} {c c' : Controller}

theorem texts_of_reread {found : Stage → Option String} {c₁ c₂ : Controller}
    (hgrammar : Reread (found .grammar) .grammar c c₁)
    (hcode : Reread (found .code) .code c₁ c₂) (stage : Stage) :
    c₂.texts stage = (found stage).getD (c.texts stage) := by
  cases stage with
  | grammar =>
    rw [hcode.texts.2 .grammar (by decide)]
    exact hgrammar.texts.1
  | code =>
    rw [← hgrammar.texts.2 .code (by decide)]
    exact hcode.texts.1

theorem texts (h : look.Leads c c') (stage : Stage) :
    c'.texts stage = (look.found stage).getD (c.texts stage) := by
  cases h with
  | waited hgrammar hcode => exact texts_of_reread hgrammar hcode stage
  | cycled hgrammar hcode hpending answer =>
    rw [← texts_of_reread hgrammar hcode stage]
    simp only [Controller.texts, Controller.cycled_buffer, Controller.disarmed_buffer]

theorem pipeline (h : look.Leads c c') {cycle : Cycle} (hcycle : look.cycle = some cycle) :
    cycle.pipeline = c' := by
  cases h with
  | waited _ _ hnone =>
    rw [hnone] at hcycle
    cases hcycle
  | cycled _ _ _ answer hsome =>
    rw [hsome] at hcycle
    cases hcycle
    rfl

theorem cycles (h : look.Leads c c') : c'.cycles = c.cycles + look.cycle.toList.length := by
  cases h with
  | waited hgrammar hcode hnone => rw [hnone, hcode.cycles, hgrammar.cycles]; rfl
  | cycled hgrammar hcode _ answer hsome =>
    rw [Controller.cycled_cycles, hsome]
    exact congrArg (· + 1) (hcode.cycles.trans hgrammar.cycles)

theorem not_pending (h : look.Leads c c') (hcycle : look.cycle.isSome) :
    c'.debouncer.isPending = false := by
  cases h with
  | waited _ _ hnone =>
    rw [hnone] at hcycle
    cases hcycle
  | cycled _ _ _ answer => rw [Controller.cycled_debouncer]; rfl

/-- What is waited for or attended to in a look was found in it, or it was waited for before. -/
theorem reason (h : look.Leads c c') (hwhy : look.cycle.isSome ∨ c'.debouncer.isPending) :
    c.debouncer.isPending ∨ look.Finds c.texts := by
  have hboth : ∀ {c₁ c₂ : Controller}, Reread (look.found .grammar) .grammar c c₁ →
      Reread (look.found .code) .code c₁ c₂ → c₂.debouncer.isPending →
      c.debouncer.isPending ∨ look.Finds c.texts := by
    intro c₁ c₂ hgrammar hcode hpending
    rcases hcode.reason hpending with hbefore | ⟨text, hfound, hne⟩
    · rcases hgrammar.reason hbefore with hfirst | ⟨text, hfound, hne⟩
      · exact .inl hfirst
      · exact .inr ⟨.grammar, text, hfound, hne⟩
    · rw [hgrammar.texts.2 .code (by decide)] at hne
      exact .inr ⟨.code, text, hfound, hne⟩
  cases h with
  | waited hgrammar hcode hnone =>
    rw [hnone] at hwhy
    exact hboth hgrammar hcode (hwhy.resolve_left (by simp))
  | cycled hgrammar hcode hpending => exact hboth hgrammar hcode hpending

end Look.Leads

/-! ### Looks in a row -/

/-- **A row of looks**, which goes on as long as there were not enough cycles. -/
inductive Path (w : WatchJob) : Controller → List Look → Controller → Prop
  | done (c : Controller) : Path w c [] c
  | more {c c₁ c' : Controller} {look : Look} {looks : List Look}
    (hmore : Session.watchedEnough w c = false) (hlook : look.Leads c c₁)
    (hlooks : Path w c₁ looks c') : Path w c (look :: looks) c'

namespace Path

variable {w : WatchJob} {c c' : Controller} {looks : List Look}

theorem texts (h : Path w c looks c') (stage : Stage) :
    c'.texts stage = textAfter c.texts looks stage := by
  induction h with
  | done c => rfl
  | more hmore hlook hlooks ih =>
    rw [ih, textAfter_cons]
    simp only [textAfter, hlook.texts]

/-- The looks up to a cycle lead to the pipeline after it. -/
theorem take_of_cycle (h : Path w c looks c') {i : Nat} {cycle : Cycle}
    (hcycle : cycleAt looks i = some cycle) :
    Path w c (looks.take (i + 1)) cycle.pipeline := by
  induction h generalizing i with
  | done c => cases hcycle
  | more hmore hlook hlooks ih =>
    rw [List.take_succ_cons]
    apply more hmore hlook
    cases i with
    | zero =>
      rw [hlook.pipeline hcycle]
      exact done _
    | succ i => exact ih hcycle

/-- **A cycle is run on the texts that were read last**, those of its own look included. -/
theorem cycle_texts (h : Path w c looks c') {i : Nat} {cycle : Cycle}
    (hcycle : cycleAt looks i = some cycle) (stage : Stage) :
    cycle.pipeline.texts stage = textAfter c.texts (looks.take (i + 1)) stage :=
  (h.take_of_cycle hcycle).texts stage

/-- **A cycle has a reason**: a text that was found since the cycle before and was another
    one, unless an edit was waiting from the beginning. -/
theorem reason (h : Path w c looks c') {i : Nat} {cycle : Cycle}
    (hcycle : cycleAt looks i = some cycle) :
    (c.debouncer.isPending ∧ ∀ k < i, cycleAt looks k = none) ∨
      ∃ j ≤ i, (∀ k, j ≤ k → k < i → cycleAt looks k = none) ∧
        ∃ look, looks[j]? = some look ∧ look.Finds (textAfter c.texts (looks.take j)) := by
  induction h generalizing i with
  | done c => cases hcycle
  | @more c c₁ c' look looks hmore hlook hlooks ih =>
    -- What this look finds is a reason for the first cycle from here on.
    have hfinds : look.Finds c.texts → ∃ look', (look :: looks)[0]? = some look' ∧
        look'.Finds (textAfter c.texts ((look :: looks).take 0)) := fun h => ⟨look, rfl, h⟩
    cases i with
    | zero =>
      have hsome : look.cycle.isSome := by
        have hhere : look.cycle = some cycle := hcycle
        rw [hhere]
        rfl
      rcases hlook.reason (.inl hsome) with hpending | hfound
      · exact .inl ⟨hpending, fun k hk => absurd hk (Nat.not_lt_zero k)⟩
      · exact .inr ⟨0, le_rfl, fun k _ hk => absurd hk (Nat.not_lt_zero k), hfinds hfound⟩
    | succ i =>
      rcases ih hcycle with ⟨hpending, hquiet⟩ | ⟨j, hj, hquiet, look', hlook', hfound⟩
      · have hnone : look.cycle = none := by
          by_contra hsome
          rw [hlook.not_pending (Option.isSome_iff_ne_none.mpr hsome)] at hpending
          cases hpending
        have hbefore : ∀ k < i + 1, cycleAt (look :: looks) k = none := by
          intro k hk
          cases k with
          | zero => exact hnone
          | succ k => exact hquiet k (Nat.lt_of_succ_lt_succ hk)
        rcases hlook.reason (.inr hpending) with hfirst | hfound
        · exact .inl ⟨hfirst, hbefore⟩
        · exact .inr ⟨0, Nat.zero_le _, fun k _ => hbefore k, hfinds hfound⟩
      · refine .inr ⟨j + 1, Nat.succ_le_succ hj, ?_, look', hlook', ?_⟩
        · intro k hjk hk
          cases k with
          | zero => exact absurd hjk (Nat.not_succ_le_zero j)
          | succ k => exact hquiet k (Nat.le_of_succ_le_succ hjk) (Nat.lt_of_succ_lt_succ hk)
        · rw [List.take_succ_cons]
          obtain ⟨stage, text, hread, hne⟩ := hfound
          refine ⟨stage, text, hread, ?_⟩
          rw [textAfter_cons]
          simpa only [textAfter, hlook.texts] using hne

theorem numbers (h : Path w c looks c') :
    c'.cycles = c.cycles + (cyclesOf looks).length ∧
      (cyclesOf looks).map (·.number) = List.range' (c.cycles + 1) (cyclesOf looks).length := by
  induction h with
  | done c => exact ⟨rfl, rfl⟩
  | @more c c₁ c' look looks hmore hlook hlooks ih =>
    have hcounted := hlook.cycles
    obtain ⟨hcycles, hnumbers⟩ := ih
    cases hcycle : look.cycle with
    | none =>
      rw [hcycle] at hcounted
      have hsame : cyclesOf (look :: looks) = cyclesOf looks := List.filterMap_cons_none hcycle
      rw [hsame, hcycles, hnumbers, hcounted]
      exact ⟨rfl, rfl⟩
    | some cycle =>
      rw [hcycle] at hcounted
      have hone : c₁.cycles = c.cycles + 1 := hcounted
      have hmore : cyclesOf (look :: looks) = cycle :: cyclesOf looks :=
        List.filterMap_cons_some hcycle
      rw [hmore, List.length_cons, List.map_cons, List.range'_succ, hcycles, hnumbers, hone,
        Cycle.number, hlook.pipeline hcycle, hone]
      exact ⟨by omega, rfl⟩

/-- **There are never more cycles than enough**, but for those there were at first. -/
theorem cycles_le (h : Path w c looks c') {n : Nat} (hn : w.cycles = some n) :
    c'.cycles ≤ max c.cycles n := by
  induction h with
  | done c => exact le_max_left _ _
  | @more c c₁ c' look looks hmore hlook hlooks ih =>
    have hlt : c.cycles < n := by
      simpa [Session.watchedEnough, hn] using hmore
    have hone : look.cycle.toList.length ≤ 1 := by
      cases look.cycle <;> simp
    have hcounted := hlook.cycles
    omega

/-- **There are as many cycles as are asked for** when there are enough, if there was one at
    first. -/
theorem limit (h : Path w c looks c') (hone : c.cycles = 1) {n : Nat} (hn : w.cycles = some n) :
    1 + (cyclesOf looks).length ≤ max 1 n ∧
      (Session.watchedEnough w c' = true ↔ 1 + (cyclesOf looks).length = max 1 n) := by
  have hcount := h.numbers.1
  have hle := h.cycles_le hn
  rw [hone] at hcount hle
  have henough : Session.watchedEnough w c' = true ↔ n ≤ c'.cycles := by
    simp [Session.watchedEnough, hn]
  rw [henough]
  omega

end Path

end GrammarLint
