/-
  GrammarLint/Proofs/Pipeline/Confinement.lean
  ============================================
  **Failures of a store stay in the store** — a pipeline does the same whether its texts
  are kept or not, for any operations and any analyzer.

  Two runs are compared, with one analyzer and with two stores that need not have anything
  in common but the two texts that the pipelines are restored with.  `Alike` is what
  stays the same between the two outsides: the analyzer, its calls, and what is logged but
  for the complaints about texts that were not kept.  Every part of an operation `Agrees`
  in the two runs; then so do operations, and by induction histories.
-/
import GrammarLint.Proofs.Pipeline.Outside

namespace GrammarLint

variable {α τ τ₁ τ₂ β γ : Type}

/-- Whether an event tells of a text that was not kept. -/
def Event.ofStore : Event → Bool
  | .persistFailed _ _ => true
  | _ => false

/-- Two outsides that differ at most in their stores and in what is logged about them. -/
structure Alike (o₁ : Outside α τ₁) (o₂ : Outside α τ₂) : Prop where
  analyzer : o₁.analyzer = o₂.analyzer
  calls : o₁.calls = o₂.calls
  events : o₁.events.filter (!·.ofStore) = o₂.events.filter (!·.ofStore)

/-- Two computations with the same answer, which keep outsides alike. -/
def Agrees (x₁ : StateM (Outside α τ₁) β) (x₂ : StateM (Outside α τ₂) β) : Prop :=
  ∀ o₁ o₂, Alike o₁ o₂ → (x₁.run o₁).1 = (x₂.run o₂).1 ∧ Alike (x₁.run o₁).2 (x₂.run o₂).2

theorem agrees_pure (b : β) :
    Agrees (pure b : StateM (Outside α τ₁) β) (pure b : StateM (Outside α τ₂) β) := by
  intro o₁ o₂ h
  exact ⟨rfl, h⟩

theorem Agrees.bind {x₁ : StateM (Outside α τ₁) β} {x₂ : StateM (Outside α τ₂) β}
    {f₁ : β → StateM (Outside α τ₁) γ} {f₂ : β → StateM (Outside α τ₂) γ}
    (hx : Agrees x₁ x₂) (hf : ∀ b, Agrees (f₁ b) (f₂ b)) :
    Agrees (x₁ >>= f₁) (x₂ >>= f₂) := by
  intro o₁ o₂ h
  obtain ⟨hanswer, halike⟩ := hx o₁ o₂ h
  rw [run_bind_state, run_bind_state, hanswer]
  exact hf _ _ _ halike

namespace Controller

variable (answer : String → String → StateM α (Except AnalyzerError String))
  (first : Store τ₁) (second : Store τ₂)

/-! ### One operation -/

theorem agrees_log (event : Event) :
    Agrees ((Services.of answer first).log event) ((Services.of answer second).log event) := by
  intro o₁ o₂ h
  refine ⟨rfl, h.analyzer, h.calls, ?_⟩
  simp only [Services.of, StateT.run, List.filter_append, h.events]

/-- What a store makes of a text is not seen by anything else: all that can come of it is
    an event that is not compared. -/
theorem alike_persist (store : Store τ) (key text : String) (o : Outside α τ) :
    Alike ((persist (Services.of answer store) key text).run o).2 o := by
  simp only [persist, run_bind_state]
  generalize hkeep : ((Services.of answer store).persist key text).run o = kept
  have hsame : Alike kept.2 o := by
    rw [← hkeep]
    exact ⟨rfl, rfl, rfl⟩
  cases kept.1 with
  | ok _ => exact hsame
  | error e =>
    refine ⟨hsame.analyzer, hsame.calls, ?_⟩
    simp only [Services.of, StateT.run, List.filter_append, hsame.events]
    exact List.append_nil _

theorem agrees_persist (key text : String) :
    Agrees (persist (Services.of answer first) key text)
      (persist (Services.of answer second) key text) := by
  intro o₁ o₂ h
  have h₁ := alike_persist answer first key text o₁
  have h₂ := alike_persist answer second key text o₂
  refine ⟨rfl, ?_, ?_, ?_⟩
  · rw [h₁.analyzer, h.analyzer, h₂.analyzer]
  · rw [h₁.calls, h.calls, h₂.calls]
  · rw [h₁.events, h.events, h₂.events]

theorem agrees_consult (snapshot : Snapshot) :
    Agrees (consult (Services.of answer first) snapshot)
      (consult (Services.of answer second) snapshot) := by
  unfold consult
  cases snapshot.grammar.isEmpty with
  | true => exact agrees_pure _
  | false =>
    have hcall : Agrees ((Services.of answer first).analyze snapshot.grammar snapshot.code)
        ((Services.of answer second).analyze snapshot.grammar snapshot.code) := by
      intro o₁ o₂ h
      simp only [Services.of, StateT.run, h.analyzer, h.calls, true_and]
      exact ⟨rfl, rfl, h.events⟩
    apply hcall.bind
    intro raw
    cases interpret raw with
    | ok result => exact agrees_pure _
    | error e =>
      apply (agrees_log answer first second _).bind
      intro _
      exact agrees_pure _

theorem agrees_attend (c : Controller) :
    Agrees (c.attend (Services.of answer first)) (c.attend (Services.of answer second)) := by
  unfold attend
  apply (agrees_persist answer first second _ _).bind
  intro _
  apply (agrees_persist answer first second _ _).bind
  intro _
  apply (agrees_consult answer first second _).bind
  intro result
  apply (agrees_log answer first second _).bind
  intro _
  exact agrees_pure result

theorem agrees_effects (c : Controller) (op : Operation) :
    Agrees (c.effects (Services.of answer first) op)
      (c.effects (Services.of answer second) op) := by
  cases op with
  | start =>
    apply (agrees_log answer first second _).bind
    intro _
    exact agrees_attend answer first second c
  | runCycle => exact agrees_attend answer first second c
  | edit stage text now =>
    apply (agrees_log answer first second _).bind
    intro _
    exact agrees_pure _
  | poll now =>
    by_cases hdue : c.debouncer.Due now
    · obtain ⟨p, hp, hle⟩ := hdue
      rw [effects_poll_of_pending _ hp hle, effects_poll_of_pending _ hp hle]
      apply (agrees_log answer first second _).bind
      intro _
      exact agrees_attend answer first second c.disarmed
    · rw [effects_poll_of_not_due _ hdue, effects_poll_of_not_due _ hdue]
      exact agrees_pure _
  | activate stage index => exact agrees_pure _
  | follow stage d => exact agrees_pure _

/-- **One operation**: two pipelines in the same state answer the same and go to the same
    state. -/
theorem agrees_perform (c : Controller) (op : Operation) :
    Agrees (c.perform (Services.of answer first) op)
      (c.perform (Services.of answer second) op) := by
  rw [perform_eq, perform_eq, map_eq_pure_bind, map_eq_pure_bind]
  apply (agrees_effects answer first second c op).bind
  intro result
  exact agrees_pure _

/-! ### A history -/

theorem agrees_history (settings : Settings) (ops : List Operation) {o₁ : Outside α τ₁}
    {o₂ : Outside α τ₂} (halike : Alike o₁ o₂)
    (htexts : first.texts settings o₁.store = second.texts settings o₂.store) :
    let h₁ := history (Services.of answer first) settings ops o₁
    let h₂ := history (Services.of answer second) settings ops o₂
    h₁.restored = h₂.restored ∧ h₁.moments = h₂.moments ∧ h₁.current = h₂.current ∧
      Alike h₁.outside h₂.outside := by
  induction ops using List.reverseRecOn with
  | nil =>
    -- Restoring is the only time that anything is read from a store.
    have hfresh : ((restore (Services.of answer first) settings).run o₁).1 =
        ((restore (Services.of answer second) settings).run o₂).1 := by
      have hgrammar := congrArg Prod.fst htexts
      have hcode := congrArg Prod.snd htexts
      exact congrArg₂ (fresh settings) hgrammar hcode
    exact ⟨hfresh, rfl, hfresh, halike.analyzer, halike.calls, halike.events⟩
  | append_singleton ops op ih =>
    obtain ⟨hrestored, hmoments, hcurrent, houtside⟩ := ih
    have hperform := agrees_perform answer first second
      (history (Services.of answer first) settings ops o₁).current op _ _ houtside
    rw [history_concat, history_concat]
    simp only [History.extend]
    rw [hcurrent] at hperform ⊢
    obtain ⟨hanswer, hafter⟩ := hperform
    refine ⟨hrestored, ?_, congrArg Prod.snd hanswer, hafter⟩
    rw [hmoments, hanswer]

/-- **Failures of a store stay in the store.**  Let two pipelines with the same settings
    and the same analyzer be restored with the same texts, from stores that may refuse or
    lose any texts at any time.  After any operations, and so after each one of them, both
    have given the same answers and are in the same state — the display, the phase, the
    counters, the buffers and what is waited for — and the analyzer was called with the same
    texts and is in the same state.  The stores may differ, and what is logged differs at
    most in the complaints about texts that were not kept. -/
theorem store_failures_confined (settings : Settings) (ops : List Operation) (a : α) (t₁ : τ₁)
    (t₂ : τ₂) (htexts : first.texts settings t₁ = second.texts settings t₂) :
    let h₁ := history (Services.of answer first) settings ops ⟨a, t₁, [], []⟩
    let h₂ := history (Services.of answer second) settings ops ⟨a, t₂, [], []⟩
    h₁.restored = h₂.restored ∧ h₁.moments = h₂.moments ∧ h₁.current = h₂.current ∧
      (∀ now, h₁.current.timeUntilDue now = h₂.current.timeUntilDue now) ∧
      h₁.outside.calls = h₂.outside.calls ∧ h₁.outside.analyzer = h₂.outside.analyzer ∧
      h₁.outside.events.filter (!·.ofStore) = h₂.outside.events.filter (!·.ofStore) := by
  intro h₁ h₂
  have halike : Alike (⟨a, t₁, [], []⟩ : Outside α τ₁) (⟨a, t₂, [], []⟩ : Outside α τ₂) :=
    ⟨rfl, rfl, rfl⟩
  obtain ⟨hrestored, hmoments, hcurrent, houtside⟩ :=
    agrees_history answer first second settings ops halike htexts
  refine ⟨hrestored, hmoments, hcurrent, ?_, houtside.calls, houtside.analyzer, houtside.events⟩
  intro now
  exact congrArg (·.timeUntilDue now) hcurrent

/-- An analyzer that finds something the first time, and fails after that. -/
def failing (_ _ : String) : StateM Nat (Except AnalyzerError String) := fun n =>
  (if n = 0 then .ok "[[[1,1,\"no rule\"]],[]]" else .error ⟨"gone", none⟩, n + 1)

/-- A store that keeps nothing, and one that refuses every other text: the pipelines do the
    same, although different texts are stored and other complaints are logged. -/
theorem store_failures_confined_alternating :
    let broken := Store.memory fun _ key _ => some (.write key "disk full")
    let picky := Store.memory fun n key _ => if n % 2 = 0 then some (.rejected key "no") else none
    let ops : List Operation :=
      [.start, .edit .code "b" 0, .poll 750, .activate .grammar 0, .edit .grammar "" 800, .runCycle]
    let shelf : Shelf := ⟨.ofList [("grammarText", "a")], 0⟩
    let h₁ := history (Services.of failing broken) .standard ops ⟨0, shelf, [], []⟩
    let h₂ := history (Services.of failing picky) .standard ops ⟨0, shelf, [], []⟩
    broken.texts .standard shelf = picky.texts .standard shelf ∧
      h₁.current = h₂.current ∧ h₁.outside.calls = h₂.outside.calls ∧
      h₁.outside.calls = [("a", ""), ("a", "b")] ∧
      h₁.outside.store.entries ≠ h₂.outside.store.entries ∧
      h₁.outside.events ≠ h₂.outside.events := by
  intro broken picky ops shelf h₁ h₂
  have htexts : broken.texts .standard shelf = picky.texts .standard shelf := rfl
  obtain ⟨-, -, hcurrent, -, hcalls, -, -⟩ :=
    store_failures_confined failing broken picky .standard ops 0 shelf shelf htexts
  exact ⟨htexts, hcurrent, hcalls, by decide +kernel, by decide +kernel, by decide +kernel⟩

end Controller

end GrammarLint
