/-
  GrammarLint/Proofs/Pipeline/Calls.lean
  ======================================
  **When the analyzer is called, and with what** — once for every cycle that begins with
  a grammar, with the two texts that the cycle begins with, and never otherwise.

  `Services.noting` are services that write down every pair of texts the analyzer is
  called with and are the given ones otherwise.  `Notes` relates a computation with such
  services to the one without: it does the same and notes a known list of calls.  One
  lemma for each part of a cycle gives the calls of one operation (`notes_effects`), and
  the calls of a whole history follow by induction (`history_noting`).
-/
import GrammarLint.Proofs.Pipeline.History

namespace GrammarLint

variable {σ : Type}

/-! ### Writing down the calls -/

/-- What an analyzer was called with. -/
abbrev Call := String × String

/-- A computation that leaves the calls that are written down as they are. -/
def beside {α : Type} (x : StateM σ α) : StateM (List Call × σ) α :=
  fun (calls, s) => ((x.run s).1, (calls, (x.run s).2))

/-- Services that write down what the analyzer is called with. -/
def Services.noting (services : Services (StateM σ)) : Services (StateM (List Call × σ)) where
  analyze grammar code := fun (calls, s) =>
    let answered := (services.analyze grammar code).run s
    (answered.1, (calls ++ [(grammar, code)], answered.2))
  load key := beside (services.load key)
  persist key text := beside (services.persist key text)
  log event := beside (services.log event)

/-- `x'` does what `x` does, and writes down the calls `new`. -/
def Notes {α : Type} (new : List Call) (x' : StateM (List Call × σ) α) (x : StateM σ α) : Prop :=
  ∀ calls s, x'.run (calls, s) = ((x.run s).1, (calls ++ new, (x.run s).2))

theorem notes_pure {α : Type} (a : α) : Notes [] (pure a : StateM (List Call × σ) α) (pure a) := by
  intro calls s
  rw [List.append_nil]
  rfl

theorem notes_beside {α : Type} (x : StateM σ α) : Notes [] (beside x) x := by
  intro calls s
  rw [List.append_nil]
  rfl

theorem Notes.bind {α β : Type} {k l : List Call} {x' : StateM (List Call × σ) α} {x : StateM σ α}
    {f' : α → StateM (List Call × σ) β} {f : α → StateM σ β}
    (hx : Notes k x' x) (hf : ∀ a, Notes l (f' a) (f a)) :
    Notes (k ++ l) (x' >>= f') (x >>= f) := by
  intro calls s
  rw [run_bind_state, hx calls s, hf, List.append_assoc]
  rfl

/-- After the last call nothing more is written down. -/
theorem Notes.bind_quiet {α β : Type} {k : List Call} {x' : StateM (List Call × σ) α}
    {x : StateM σ α} {f' : α → StateM (List Call × σ) β} {f : α → StateM σ β}
    (hx : Notes k x' x) (hf : ∀ a, Notes [] (f' a) (f a)) :
    Notes k (x' >>= f') (x >>= f) := by
  have h := hx.bind hf
  rwa [List.append_nil] at h

namespace Controller

variable (services : Services (StateM σ))

/-! ### The calls of one operation -/

theorem notes_persist (key text : String) :
    Notes [] (persist services.noting key text) (persist services key text) := by
  refine (notes_beside (services.persist key text)).bind_quiet fun result => ?_
  cases result with
  | ok _ => exact notes_pure _
  | error e => exact notes_beside _

/-- What a cycle on these texts calls the analyzer with. -/
def callsFor (texts : String × String) : List Call :=
  if texts.1.isEmpty then [] else [texts]

theorem notes_consult (snapshot : Snapshot) :
    Notes (callsFor (snapshot.grammar, snapshot.code))
      (consult services.noting snapshot) (consult services snapshot) := by
  unfold consult callsFor
  cases hempty : snapshot.grammar.isEmpty with
  | true => exact notes_pure _
  | false =>
    have hcall : Notes [(snapshot.grammar, snapshot.code)]
        (services.noting.analyze snapshot.grammar snapshot.code)
        (services.analyze snapshot.grammar snapshot.code) := fun _ _ => rfl
    refine hcall.bind_quiet fun raw => ?_
    cases interpret raw with
    | ok result => exact notes_pure _
    | error e => exact (notes_beside _).bind_quiet fun _ => notes_pure _

/-- A cycle calls the analyzer once, unless there is no grammar. -/
theorem notes_attend (c : Controller) :
    Notes (callsFor (c.grammar.text, c.code.text)) (c.attend services.noting)
      (c.attend services) := by
  unfold attend
  refine (notes_persist services _ _).bind fun _ => ?_
  refine (notes_persist services _ _).bind fun _ => ?_
  refine (notes_consult services c.snapshot).bind_quiet fun answer => ?_
  exact (notes_beside _).bind_quiet fun _ => notes_pure answer

/-- The calls of an operation: those of its cycle, if it runs one. -/
def callsOf (c : Controller) (op : Operation) : List Call :=
  if c.runsCycle op then callsFor (c.grammar.text, c.code.text) else []

theorem notes_effects (c : Controller) (op : Operation) :
    Notes (c.callsOf op) (c.effects services.noting op) (c.effects services op) := by
  cases op with
  | start => exact (notes_beside _).bind fun _ => notes_attend services c
  | runCycle => exact notes_attend services c
  | edit stage text now => exact (notes_beside _).bind_quiet fun _ => notes_pure _
  | poll now =>
    by_cases hdue : c.debouncer.Due now
    · have hcalls : c.callsOf (.poll now) = callsFor (c.grammar.text, c.code.text) := by
        simp [callsOf, runsCycle, hdue]
      obtain ⟨p, hp, hle⟩ := hdue
      rw [hcalls, effects_poll_of_pending _ hp hle, effects_poll_of_pending _ hp hle]
      exact (notes_beside _).bind fun _ => notes_attend services c.disarmed
    · have hcalls : c.callsOf (.poll now) = [] := by simp [callsOf, runsCycle, hdue]
      rw [hcalls, effects_poll_of_not_due _ hdue, effects_poll_of_not_due _ hdue]
      exact notes_pure _
  | activate stage index => exact notes_pure _
  | follow stage d => exact notes_pure _

theorem notes_perform (c : Controller) (op : Operation) :
    Notes (c.callsOf op) (c.perform services.noting op) (c.perform services op) := by
  rw [perform_eq, perform_eq, map_eq_pure_bind, map_eq_pure_bind]
  exact (notes_effects services c op).bind_quiet fun answer => notes_pure _

/-! ### The calls of a history -/

/-- The calls of a history: the texts of its cycles, where there is a grammar. -/
def History.calls (h : History σ) : List Call :=
  h.cycleTexts.filter fun texts => !texts.1.isEmpty

/-- How many cycles of a history ended as empty. -/
def History.emptyCycles (h : History σ) : Nat :=
  h.moments.countP fun m => m.answer.cycle? == some .empty

theorem callsFor_eq_filter (texts : String × String) :
    callsFor texts = [texts].filter fun texts => !texts.1.isEmpty := by
  cases h : texts.1.isEmpty <;> simp [callsFor, h]

/-- An operation adds its calls to those of the history before it. -/
theorem calls_concat (settings : Settings) (ops : List Operation) (op : Operation) (s : σ) :
    (history services settings (ops ++ [op]) s).calls =
      (history services settings ops s).calls ++
        (history services settings ops s).current.callsOf op := by
  obtain ⟨answer, outside, hh, -⟩ := history_react services settings ops op s
  have hgrammar := text_current services settings ops s .grammar
  have hcode := text_current services settings ops s .code
  have hcycle := isSome_cycle?_react (history services settings ops s).current answer op
  rw [hh]
  generalize history services settings ops s = h at *
  simp only [buffer] at hgrammar hcode
  simp only [History.calls, cycleTexts_extend, List.filter_append]
  congr 1
  rw [callsOf, ← hcycle, callsFor_eq_filter, hgrammar, hcode]
  rcases (h.current.react answer op).1.cycle? with _ | o <;> rfl

/-- **Writing down changes nothing, and writes down exactly the calls of the history.** -/
theorem history_noting (settings : Settings) (ops : List Operation) (s : σ) :
    let h := history services settings ops s
    history services.noting settings ops ([], s) =
      ⟨h.restored, h.moments, h.current, (h.calls, h.outside)⟩ := by
  -- By the last operation, since the calls are written down in the order they are made.
  induction ops using List.reverseRecOn with
  | nil => rfl
  | append_singleton ops op ih =>
    have hrun := notes_perform services (history services settings ops s).current op
      (history services settings ops s).calls (history services settings ops s).outside
    simp only [history_concat, ih] at hrun ⊢
    rw [hrun, ← calls_concat, history_concat]
    rfl

/-! ### Counting -/

theorem length_callsOf_le (c : Controller) (op : Operation) : (c.callsOf op).length ≤ 1 := by
  unfold callsOf callsFor
  split
  · split <;> simp
  · simp

theorem runsCycle_of_callsOf {c : Controller} {op : Operation} (h : c.callsOf op ≠ []) :
    c.runsCycle op = true := by
  by_contra hno
  rw [Bool.not_eq_true] at hno
  exact h (by simp [callsOf, hno])

/-- A cycle counts itself, and it counts a call or ends as empty. -/
theorem counters_cycled (c : Controller) (answer : Option (Except AnalysisError AnalysisResult))
    (h : answer.isNone = c.grammar.text.isEmpty) :
    (c.cycled answer).2.cycles = c.cycles + 1 ∧
      (c.cycled answer).2.invocations =
        c.invocations + (callsFor (c.grammar.text, c.code.text)).length ∧
      (callsFor (c.grammar.text, c.code.text)).length +
        (if (c.cycled answer).1 = .empty then 1 else 0) = 1 := by
  simp only [cycled_cycles, cycled_invocations, cycled_outcome_eq_empty, callsFor, ← h]
  cases answer with
  | none => simp
  | some result => simp

/-- An operation counts its calls, and the cycle that it runs. -/
theorem counters_react (c : Controller) (answer : Option (Except AnalysisError AnalysisResult))
    (op : Operation) (h : c.runsCycle op → answer.isNone = c.grammar.text.isEmpty) :
    (c.react answer op).2.invocations = c.invocations + (c.callsOf op).length ∧
      (c.react answer op).2.cycles =
        c.cycles + (c.callsOf op).length +
          (if (c.react answer op).1.cycle? = some .empty then 1 else 0) := by
  have hr := reaction_react c answer op
  generalize (c.react answer op).1 = a at hr ⊢
  generalize (c.react answer op).2 = c' at hr ⊢
  cases hr with
  | start | runCycle =>
    obtain ⟨hcycles, hcalls, hone⟩ := counters_cycled c answer (h rfl)
    simp only [callsOf, runsCycle, if_true, Answer.cycle?, Option.some.injEq]
    exact ⟨hcalls, by omega⟩
  | due now hdue =>
    -- Taking the edit that waited changes neither texts nor counters.
    have hruns : c.runsCycle (.poll now) = true := by simp [runsCycle, hdue]
    obtain ⟨hcycles, hcalls, hone⟩ := counters_cycled c.disarmed answer (h hruns)
    simp only [callsOf, hruns, if_true, Answer.cycle?, Option.some.injEq]
    exact ⟨hcalls, by simp only [disarmed] at *; omega⟩
  | early now hdue => simp [callsOf, runsCycle, hdue, Answer.cycle?]
  | edit stage text now => simp [callsOf, runsCycle, Answer.cycle?]
  | activate _ _ _ _ hsame | follow _ _ _ _ hsame =>
    simp [callsOf, runsCycle, Answer.cycle?, hsame.cycles, hsame.invocations]

/-- **The counters.**  Calls are counted as calls, and every cycle without one is empty. -/
theorem counters_current (settings : Settings) (ops : List Operation) (s : σ) :
    let h := history services settings ops s
    h.current.invocations = h.calls.length ∧
      h.current.cycles = h.current.invocations + h.emptyCycles := by
  induction ops using List.reverseRecOn with
  | nil => exact ⟨rfl, rfl⟩
  | append_singleton ops op ih =>
    have hcalls := calls_concat services settings ops op s
    obtain ⟨answer, outside, hh, hnone⟩ := history_react services settings ops op s
    obtain ⟨hinv, hcyc⟩ := counters_react _ answer op hnone
    rw [hh] at hcalls ⊢
    generalize history services settings ops s = h at *
    simp only at ih ⊢
    rw [hcalls, List.length_append]
    simp only [History.extend, History.emptyCycles, List.countP_append, List.countP_singleton,
      beq_iff_eq] at ih ⊢
    omega

/-- Every cycle is one of those whose texts are told. -/
theorem length_cycleTexts (settings : Settings) (ops : List Operation) (s : σ) :
    let h := history services settings ops s
    h.cycleTexts.length = h.current.cycles := by
  induction ops using List.reverseRecOn with
  | nil => rfl
  | append_singleton ops op ih =>
    obtain ⟨answer, outside, hh, -⟩ := history_react services settings ops op s
    rw [hh]
    generalize history services settings ops s = h at *
    simp only [cycleTexts_extend, List.length_append] at ih ⊢
    rw [ih]
    have hr := reaction_react h.current answer op
    simp only [History.extend]
    generalize (h.current.react answer op).1 = a at hr ⊢
    generalize (h.current.react answer op).2 = c' at hr ⊢
    cases hr with
    | start | runCycle | due => simp [Answer.cycle?, disarmed]
    | early | edit => simp [Answer.cycle?]
    | activate _ _ _ _ hsame | follow _ _ _ _ hsame => simp [Answer.cycle?, hsame.cycles]

/-! ### The law -/

/-- **The calls of the analyzer.**  For all services, settings and operations, the pairs of
    texts that the analyzer receives are those that the cycles began with, in the order
    of the cycles and without those that have no grammar; a text is that of the last
    edit, or the one that was stored at first, or empty.  So no call has an empty
    grammar, and an operation makes one call at most, and only in a cycle.  The counter
    of calls counts all of them, whatever was answered; that of cycles counts the empty
    cycles too. -/
theorem analyzer_called_with_cycle_texts (settings : Settings) (ops : List Operation) (s : σ) :
    let h := history services settings ops s
    let noted := history services.noting settings ops ([], s)
    let stored := (services.load settings.grammarKey).run s
    (noted.restored = h.restored ∧ noted.moments = h.moments ∧ noted.current = h.current ∧
        noted.outside.2 = h.outside) ∧
      noted.outside.1 = h.cycleTexts.filter (fun texts => !texts.1.isEmpty) ∧
      h.restored.grammar.text = stored.1.getD "" ∧
      h.restored.code.text = ((services.load settings.codeKey).run stored.2).1.getD "" ∧
      (∀ call ∈ noted.outside.1, call.1 ≠ "") ∧
      (∀ op, ∃ new answer,
        (history services.noting settings (ops ++ [op]) ([], s)).outside.1 =
            noted.outside.1 ++ new ∧
          (history services settings (ops ++ [op]) s).moments = h.moments ++ [⟨op, answer⟩] ∧
          new.length ≤ 1 ∧ (new ≠ [] → answer.cycle?.isSome)) ∧
      h.current.invocations = noted.outside.1.length ∧
      h.current.cycles = h.cycleTexts.length ∧
      h.current.cycles = h.current.invocations + h.emptyCycles := by
  intro h noted stored
  have hnoted : noted = ⟨h.restored, h.moments, h.current, (h.calls, h.outside)⟩ :=
    history_noting services settings ops s
  obtain ⟨hinv, hcycles⟩ := counters_current services settings ops s
  rw [hnoted]
  refine ⟨⟨rfl, rfl, rfl, rfl⟩, rfl, rfl, rfl, ?_, ?_, hinv,
    (length_cycleTexts services settings ops s).symm, hcycles⟩
  · intro call hcall hempty
    have hfilter := (List.mem_filter.mp hcall).2
    simp [hempty] at hfilter
  · intro op
    obtain ⟨answer, outside, hh, -⟩ := history_react services settings ops op s
    refine ⟨h.current.callsOf op, (h.current.react answer op).1, ?_, ?_,
      length_callsOf_le h.current op, ?_⟩
    · rw [history_noting, calls_concat]
    · rw [hh]
      rfl
    · intro hnew
      rw [isSome_cycle?_react]
      exact runsCycle_of_callsOf hnew

end Controller

end GrammarLint
