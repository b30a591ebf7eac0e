/-
  GrammarLint/Proofs/Pipeline/Forgetting.lean
  ===========================================
  **A cycle forgets what was before it** — with an analyzer that goes by the two texts and
  a store that keeps what it is given, only the texts count.

  Everything that a pipeline carries on from one cycle to the next might show in the next
  one: the display, the versions, the counters, an edit that waits, what is stored.  So the
  state after a cycle is told from its texts alone (`settled_of_ending`).  Two histories that
  end with a cycle on the same texts agree for that reason, and need not be compared step by
  step; and one more cycle finds everything as it would make it.
-/
import GrammarLint.Proofs.Pipeline.LastGood
import GrammarLint.Proofs.Pipeline.Persistence

namespace GrammarLint

variable {α τ τ₁ τ₂ : Type}

/-! ### Analyzers and stores that can be relied on -/

/-- An analyzer whose answers always decode, and as a function of the two texts.  Its state,
    and the form of the answers, may change from call to call. -/
def Steady (answer : String → String → StateM α (Except AnalyzerError String))
    (result : String → String → AnalysisResult) : Prop :=
  ∀ grammar code a, interpret ((answer grammar code).run a).1 = .ok (result grammar code)

namespace Store

/-- The text that a store has under a key. -/
def held (store : Store τ) (t : τ) (key : String) : Option String := ((store.load key).run t).1

/-- A store that does not fail: what it is asked to keep is there, and all else as before. -/
def Reliable (store : Store τ) : Prop :=
  ∀ key text t k, store.held (store.after key text t) k =
    if k = key then some text else store.held t k

theorem reliable_memory : (memory fun _ _ _ => none).Reliable := by
  intro key text t k
  have hget := get?_after (fun _ _ _ => none) key text t k
  simp only [Option.isNone_none, and_true] at hget
  exact hget

end Store

namespace Controller

theorem held_afterCycle {store : Store τ} (hstore : store.Reliable) (c : Controller) (t : τ)
    (key : String) :
    store.held (c.afterCycle store t) key =
      if key = c.settings.codeKey then some c.code.text
      else if key = c.settings.grammarKey then some c.grammar.text
      else store.held t key := by
  rw [afterCycle, hstore, hstore]

/-! ### One cycle -/

/-- What is to be rendered for two texts. -/
def wanted (result : String → String → AnalysisResult) (texts : String × String) :
    Option AnalysisResult :=
  if texts.1.isEmpty then none else some (result texts.1 texts.2)

section Cycle

variable {answer : String → String → StateM α (Except AnalyzerError String)}
  {result : String → String → AnalysisResult} (hsteady : Steady answer result)
  (store : Store τ)

include hsteady

theorem consult_steady (snapshot : Snapshot) (o : Outside α τ) :
    ((consult (Services.of answer store) snapshot).run o).1 =
      (wanted result (snapshot.grammar, snapshot.code)).map .ok := by
  unfold consult wanted
  cases hempty : snapshot.grammar.isEmpty with
  | true => rfl
  | false =>
    have hanswer := hsteady snapshot.grammar snapshot.code o.analyzer
    have hrun : ((Services.of answer store).analyze snapshot.grammar snapshot.code).run o =
        (((answer snapshot.grammar snapshot.code).run o.analyzer).1,
          (((Services.of answer store).analyze snapshot.grammar snapshot.code).run o).2) := rfl
    simp only [Bool.false_eq_true, if_false, run_bind_state]
    rw [hrun]
    simp only [hanswer]
    rfl

theorem attend_steady (c : Controller) (o : Outside α τ) :
    ((c.attend (Services.of answer store)).run o).1 =
      (wanted result (c.grammar.text, c.code.text)).map .ok := by
  simp only [attend, run_bind_state]
  exact consult_steady hsteady store c.snapshot _

theorem effects_steady (c : Controller) {op : Operation} (hruns : c.runsCycle op)
    (o : Outside α τ) :
    ((c.effects (Services.of answer store) op).run o).1 =
      (wanted result (c.grammar.text, c.code.text)).map .ok := by
  cases op with
  | start => exact attend_steady hsteady store c _
  | runCycle => exact attend_steady hsteady store c _
  | poll now =>
    by_cases hdue : c.debouncer.Due now
    · obtain ⟨p, hp, hle⟩ := hdue
      rw [effects_poll_of_pending _ hp hle]
      exact attend_steady hsteady store c.disarmed _
    · simp [runsCycle, hdue] at hruns
  | edit => simp [runsCycle] at hruns
  | activate => simp [runsCycle] at hruns
  | follow => simp [runsCycle] at hruns

end Cycle

/-- The outcome of the last operation, if that ran a cycle. -/
def History.ending {σ : Type} (h : History σ) : Option Outcome :=
  h.moments.getLast?.bind (·.answer.cycle?)

theorem ending_extend {σ : Type} (h : History σ) (m : Moment) (c : Controller) (s : σ) :
    (h.extend m c s).ending = m.answer.cycle? := by
  simp [History.ending, History.extend]

/-! ### Histories that end with a cycle -/

/-- The last operation of such a history ran the cycle. -/
theorem cycle_of_ending {σ : Type} (services : Services (StateM σ)) (settings : Settings)
    (ops : List Operation) (s : σ) {outcome : Outcome}
    (hending : (history services settings ops s).ending = some outcome) :
    ∃ before op answer outside,
      let h := history services settings before s
      ops = before ++ [op] ∧ h.current.runsCycle op = true ∧
        history services settings (before ++ [op]) s =
          h.extend ⟨op, (h.current.react answer op).1⟩ (h.current.react answer op).2 outside := by
  rcases List.eq_nil_or_concat ops with rfl | ⟨before, op, rfl⟩
  · cases hending
  · rw [List.concat_eq_append] at hending ⊢
    obtain ⟨answer, outside, hh, -⟩ := history_react services settings before op s
    rw [hh, ending_extend] at hending
    refine ⟨before, op, answer, outside, rfl, ?_, hh⟩
    rw [← isSome_cycle?_react _ answer, hending]
    rfl

/-- What a cycle leaves behind for its texts, wherever it began. -/
structure Settled (result : String → String → AnalysisResult) (store : Store τ)
    (settings : Settings) (h : History (Outside α τ)) (outcome : Outcome) : Prop where
  display : h.current.display =
    .render (wanted result (h.current.grammar.text, h.current.code.text))
  outcome_eq : outcome =
    outcomeOf ((wanted result (h.current.grammar.text, h.current.code.text)).map .ok)
  held : ∀ stage, store.held h.outside.store (settings.key stage) =
    some (h.current.buffer stage).text

section Histories

variable {answer : String → String → StateM α (Except AnalyzerError String)}
  {result : String → String → AnalysisResult} (hsteady : Steady answer result)
  {store : Store τ} (hstore : store.Reliable) {settings : Settings}
  (hkeys : settings.grammarKey ≠ settings.codeKey)

include hsteady hstore hkeys

/-- **One cycle more** leaves both texts alone, and behind it is what belongs to them. -/
theorem settled_concat (ops : List Operation) (o : Outside α τ) {op : Operation}
    (hruns : (history (Services.of answer store) settings ops o).current.runsCycle op) :
    let h := history (Services.of answer store) settings ops o
    let next := history (Services.of answer store) settings (ops ++ [op]) o
    ∃ outcome, next.ending = some outcome ∧ Settled result store settings next outcome ∧
      (∀ stage, next.current.buffer stage = h.current.buffer stage) ∧
      ∀ key, (∀ stage, key ≠ settings.key stage) →
        store.held next.outside.store key = store.held h.outside.store key := by
  intro h next
  have hsettings : h.current.settings = settings :=
    settings_current (Services.of answer store) settings ops o
  have hnext : next = h.extend ⟨op, _⟩ _ _ := history_concat _ settings ops op o
  rw [perform_run_eq, effects_steady hsteady store h.current hruns h.outside] at hnext
  have hkept : next.outside.store = h.current.afterCycle store h.outside.store :=
    (store_history answer store settings ops op o).trans (if_pos hruns)
  generalize hw : wanted result (h.current.grammar.text, h.current.code.text) = w at hnext
  obtain ⟨hcycle, hdisplay⟩ := (display_react h.current (w.map .ok) op).1 hruns
  have hbuffer : ∀ stage, next.current.buffer stage = h.current.buffer stage := by
    intro stage
    rw [hnext]
    exact react_buffer h.current _ hruns stage
  have hgrammar : next.current.grammar = h.current.grammar := hbuffer .grammar
  have hcode : next.current.code = h.current.code := hbuffer .code
  refine ⟨outcomeOf (w.map .ok), ?_, ⟨?_, ?_, ?_⟩, hbuffer, ?_⟩
  · rw [hnext, ending_extend]
    exact hcycle
  · rw [hgrammar, hcode, hw, hnext]
    refine hdisplay.trans ?_
    cases w <;> rfl
  · rw [hgrammar, hcode, hw]
  · intro stage
    rw [hkept, held_afterCycle hstore, hbuffer, hsettings]
    cases stage
    · simp only [Settings.key, if_neg hkeys, if_pos]
      rfl
    · simp only [Settings.key, if_pos]
      rfl
  · intro key hkey
    have hcodeKey : key ≠ settings.codeKey := hkey .code
    have hgrammarKey : key ≠ settings.grammarKey := hkey .grammar
    rw [hkept, held_afterCycle hstore, hsettings, if_neg hcodeKey, if_neg hgrammarKey]

theorem settled_of_ending (ops : List Operation) (o : Outside α τ) {outcome : Outcome}
    (hending : (history (Services.of answer store) settings ops o).ending = some outcome) :
    Settled result store settings (history (Services.of answer store) settings ops o)
      outcome := by
  obtain ⟨before, op, -, -, rfl, hruns, -⟩ :=
    cycle_of_ending (Services.of answer store) settings ops o hending
  obtain ⟨outcome', hending', hsettled, -⟩ := settled_concat hsteady hstore hkeys before o hruns
  rw [hending] at hending'
  cases hending'
  exact hsettled

/-- One cycle more changes nothing of what was settled. -/
theorem settled_again (ops : List Operation) (o : Outside α τ) {outcome : Outcome}
    (hending : (history (Services.of answer store) settings ops o).ending = some outcome)
    {op : Operation}
    (hruns : (history (Services.of answer store) settings ops o).current.runsCycle op) :
    let h := history (Services.of answer store) settings ops o
    let next := history (Services.of answer store) settings (ops ++ [op]) o
    next.current.display = h.current.display ∧ next.ending = some outcome ∧
      ∀ key, store.held next.outside.store key = store.held h.outside.store key := by
  intro h next
  have hsettled := settled_of_ending hsteady hstore hkeys ops o hending
  obtain ⟨outcome', hending', hagain, hbuffer, hothers⟩ :=
    settled_concat hsteady hstore hkeys ops o hruns
  have hgrammar : next.current.grammar = h.current.grammar := hbuffer .grammar
  have hcode : next.current.code = h.current.code := hbuffer .code
  refine ⟨?_, ?_, ?_⟩
  · rw [hagain.display, hsettled.display, hgrammar, hcode]
  · rw [hending', hagain.outcome_eq, hsettled.outcome_eq, hgrammar, hcode]
  · intro key
    by_cases hkey : ∃ stage, key = settings.key stage
    · obtain ⟨stage, rfl⟩ := hkey
      rw [hagain.held, hsettled.held, hbuffer]
    · exact hothers key fun stage heq => hkey ⟨stage, heq⟩

end Histories

/-! ### The law -/

/-- **A cycle forgets what was before it.**  Let the answers of the analyzer be decoded as a
    function of the two texts, let the keys differ and let the stores not fail.  Take any two
    histories, restored from any stores and in any state of the analyzer, that end with an
    operation which ran a cycle, and with the same two texts.  They show what belongs to the
    texts, and so the same; their last cycles had the same outcome, and the same is stored
    under the two keys, whatever was done before, how often, in which order and when.

    So any further cycle at once has that outcome again, and leaves the display and the
    whole store as they are. -/
theorem texts_decide {answer : String → String → StateM α (Except AnalyzerError String)}
    {result : String → String → AnalysisResult} (hsteady : Steady answer result)
    {first : Store τ₁} (hfirst : first.Reliable) {second : Store τ₂} (hsecond : second.Reliable)
    {settings : Settings} (hkeys : settings.grammarKey ≠ settings.codeKey)
    (ops₁ ops₂ : List Operation) (o₁ : Outside α τ₁) (o₂ : Outside α τ₂)
    {outcome₁ outcome₂ : Outcome}
    (hending₁ : (history (Services.of answer first) settings ops₁ o₁).ending = some outcome₁)
    (hending₂ : (history (Services.of answer second) settings ops₂ o₂).ending = some outcome₂)
    (htexts : ∀ stage,
      ((history (Services.of answer first) settings ops₁ o₁).current.buffer stage).text =
        ((history (Services.of answer second) settings ops₂ o₂).current.buffer stage).text) :
    let h₁ := history (Services.of answer first) settings ops₁ o₁
    let h₂ := history (Services.of answer second) settings ops₂ o₂
    Settled result first settings h₁ outcome₁ ∧
      h₁.current.display = h₂.current.display ∧ outcome₁ = outcome₂ ∧
      (∀ stage, first.held h₁.outside.store (settings.key stage) =
        second.held h₂.outside.store (settings.key stage)) ∧
      ∀ op, h₁.current.runsCycle op →
        let next := history (Services.of answer first) settings (ops₁ ++ [op]) o₁
        next.current.display = h₁.current.display ∧ next.ending = some outcome₁ ∧
          ∀ key, first.held next.outside.store key = first.held h₁.outside.store key := by
  intro h₁ h₂
  have hsettled₁ := settled_of_ending hsteady hfirst hkeys ops₁ o₁ hending₁
  have hsettled₂ := settled_of_ending hsteady hsecond hkeys ops₂ o₂ hending₂
  have hgrammar : h₁.current.grammar.text = h₂.current.grammar.text := htexts .grammar
  have hcode : h₁.current.code.text = h₂.current.code.text := htexts .code
  refine ⟨hsettled₁, ?_, ?_, ?_, ?_⟩
  · rw [hsettled₁.display, hsettled₂.display, hgrammar, hcode]
  · rw [hsettled₁.outcome_eq, hsettled₂.outcome_eq, hgrammar, hcode]
  · intro stage
    rw [hsettled₁.held, hsettled₂.held, htexts]
  · intro op hruns
    exact settled_again hsteady hfirst hkeys ops₁ o₁ hending₁ hruns

/-- An analyzer that counts its calls, and misses the code if there is none. -/
def counting (_ code : String) : StateM Nat (Except AnalyzerError String) := fun n =>
  (.ok (if code = "" then "[[],[[1,1,\"no code\"]]]" else "[[],[],\"tree\"]"), n + 1)

theorem steady_counting : Steady counting fun _ code =>
    if code = "" then ⟨[], [⟨1, 1, "no code"⟩], "", ""⟩ else ⟨[], [], "tree", ""⟩ := by
  intro grammar code n
  have hmissing : interpret (.ok "[[],[[1,1,\"no code\"]]]") =
      .ok ⟨[], [⟨1, 1, "no code"⟩], "", ""⟩ := by decide +kernel
  have hthere : interpret (.ok "[[],[],\"tree\"]") = .ok ⟨[], [], "tree", ""⟩ := by
    decide +kernel
  have hanswer : ((counting grammar code).run n).1 =
      .ok (if code = "" then "[[],[[1,1,\"no code\"]]]" else "[[],[],\"tree\"]") := rfl
  rw [hanswer]
  by_cases hcode : code = ""
  · simpa only [if_pos hcode] using hmissing
  · simpa only [if_neg hcode] using hthere

/-- A long way to two texts, and a short one. -/
def longWay : List Operation :=
  [.start, .edit .code "b" 0, .poll 750, .edit .grammar "a" 100, .edit .code "c" 90, .runCycle,
    .activate .code 0, .edit .code "" 2000, .poll 3000]

def shortWay : List Operation := [.edit .grammar "a" 5, .runCycle]

/-- Both ways show the same, with other texts stored at first and other calls counted. -/
theorem texts_decide_long_and_short :
    let services := Services.of counting (.memory fun _ _ _ => none)
    let o₁ : Outside Nat Shelf := ⟨0, ⟨.ofList [("grammarText", "z"), ("other", "o")], 0⟩, [], []⟩
    let o₂ : Outside Nat Shelf := ⟨7, ⟨.empty, 0⟩, [], []⟩
    let h₁ := history services .standard longWay o₁
    let h₂ := history services .standard shortWay o₂
    h₁.ending = some .rendered ∧ h₁.current.display = h₂.current.display ∧
      h₂.current.display = ⟨.valid, .invalid [⟨1, 1, "no code"⟩], "", ""⟩ ∧
      h₁.current.cycles = 4 ∧ h₂.current.cycles = 1 := by
  intro services o₁ o₂ h₁ h₂
  have hkeys : Settings.standard.grammarKey ≠ Settings.standard.codeKey := by decide
  have hending₁ : h₁.ending = some .rendered := by decide +kernel
  have hending₂ : h₂.ending = some .rendered := by decide +kernel
  have htexts : ∀ stage, (h₁.current.buffer stage).text = (h₂.current.buffer stage).text := by
    intro stage
    cases stage <;> decide +kernel
  have hshown : h₂.current.display = ⟨.valid, .invalid [⟨1, 1, "no code"⟩], "", ""⟩ := by
    decide +kernel
  have hcycles₁ : h₁.current.cycles = 4 := by decide +kernel
  have hcycles₂ : h₂.current.cycles = 1 := by decide +kernel
  have hdisplay := (@texts_decide _ _ _ _ _ steady_counting _ Store.reliable_memory _
    Store.reliable_memory .standard hkeys longWay shortWay o₁ o₂ _ _ hending₁ hending₂ htexts).2.1
  -- The two histories are given names, so that nothing evaluates them once more.
  have hlong : history (Services.of counting (.memory fun _ _ _ => none)) .standard longWay o₁ =
      h₁ := rfl
  have hshort : history (Services.of counting (.memory fun _ _ _ => none)) .standard shortWay o₂ =
      h₂ := rfl
  rw [hlong, hshort] at hdisplay
  exact ⟨hending₁, hdisplay, hshown, hcycles₁, hcycles₂⟩

end Controller

end GrammarLint
