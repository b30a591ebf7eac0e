/-
  GrammarLint/Proofs/Pipeline/Persistence.lean
  ============================================
  **What is stored, and restored** — a pipeline over a store in memory that may refuse any
  text at any time.

  A cycle makes two requests, first for the text of the grammar and then for that of the
  code, and the store answers each of them as it likes.  As the keys differ, what comes of
  one request is not seen under the key of the other (`get?_afterCycle`), and restoring
  reads under each key what the request for it left there.  `stored_current` says the same of
  a whole history: under a key is the text of the last cycle that had it kept.
-/
import GrammarLint.Proofs.Pipeline.Confinement
import GrammarLint.Proofs.Store.Entries

namespace GrammarLint

/-! ### One request -/

section Request

variable (refusal : Nat → String → String → Option StoreError) (key text : String) (t : Shelf)

@[simp] theorem asked_after : ((Store.memory refusal).after key text t).asked = t.asked + 1 := by
  simp only [Store.after, Store.memory, StateT.run]
  split <;> rfl

/-- What is refused is not stored, and what is kept is under its key. -/
theorem get?_after (k : String) :
    ((Store.memory refusal).after key text t).entries.get? k =
      if k = key ∧ (refusal t.asked key text).isNone then some text else t.entries.get? k := by
  simp only [Store.after, Store.memory, StateT.run]
  cases hrefusal : refusal t.asked key text with
  | some e => simp
  | none => simp [Entries.get?_insert]

end Request

namespace Controller

/-! ### The two requests of a cycle -/

/-- Whether the text of a stage is kept in a cycle, after so many requests of other cycles. -/
def keeps (refusal : Nat → String → String → Option StoreError) (settings : Settings) (asked : Nat)
    (stage : Stage) (text : String) : Bool :=
  (refusal (asked + stage.index) (settings.key stage) text).isNone

variable (refusal : Nat → String → String → Option StoreError)

theorem asked_afterCycle (c : Controller) (t : Shelf) :
    (c.afterCycle (.memory refusal) t).asked = t.asked + 2 := by
  simp only [afterCycle, asked_after]

/-- **The two requests do not meet.** -/
theorem get?_afterCycle (c : Controller) (hkeys : c.settings.grammarKey ≠ c.settings.codeKey)
    (t : Shelf) (stage : Stage) :
    (c.afterCycle (.memory refusal) t).entries.get? (c.settings.key stage) =
      if keeps refusal c.settings t.asked stage (c.buffer stage).text
      then some (c.buffer stage).text else t.entries.get? (c.settings.key stage) := by
  simp only [afterCycle, get?_after, asked_after, keeps]
  cases stage with
  | grammar => simp [Settings.key, buffer, Stage.index, hkeys]
  | code => simp [Settings.key, buffer, Stage.index, hkeys.symm]

theorem get?_afterCycle_of_ne (c : Controller) (t : Shelf) {key : String}
    (h : ∀ stage, key ≠ c.settings.key stage) :
    (c.afterCycle (.memory refusal) t).entries.get? key = t.entries.get? key := by
  have hgrammar : key ≠ c.settings.grammarKey := h .grammar
  have hcode : key ≠ c.settings.codeKey := h .code
  simp only [afterCycle, get?_after, hgrammar, hcode, false_and, if_false]

/-! ### Settings and texts stay through a cycle -/

theorem react_settings (c : Controller)
    (answer : Option (Except AnalysisError AnalysisResult)) (op : Operation) :
    (c.react answer op).2.settings = c.settings := by
  have hr := reaction_react c answer op
  generalize (c.react answer op).1 = a at hr
  generalize (c.react answer op).2 = c' at hr ⊢
  cases hr with
  | start | runCycle | due => exact cycled_settings _ _
  | edit => exact edited_settings _ _ _ _
  | early => rfl
  | activate _ _ _ _ hsame | follow _ _ _ _ hsame => exact hsame.settings

/-- An operation that runs a cycle edits nothing. -/
theorem react_buffer (c : Controller) (answer : Option (Except AnalysisError AnalysisResult))
    {op : Operation} (hruns : c.runsCycle op) (stage : Stage) :
    (c.react answer op).2.buffer stage = c.buffer stage := by
  have hr := reaction_react c answer op
  generalize (c.react answer op).1 = a at hr
  generalize (c.react answer op).2 = c' at hr ⊢
  cases hr with
  | start | runCycle => exact cycled_buffer _ _ _
  | due now hdue => rw [cycled_buffer, disarmed_buffer]
  | early now hdue => simp [runsCycle, hdue] at hruns
  | edit | activate | follow => simp [runsCycle] at hruns

theorem settings_current {σ : Type} (services : Services (StateM σ)) (settings : Settings)
    (ops : List Operation) (s : σ) :
    (history services settings ops s).current.settings = settings := by
  induction ops using List.reverseRecOn with
  | nil => rfl
  | append_singleton ops op ih =>
    obtain ⟨answer, outside, hh, -⟩ := history_react services settings ops op s
    rw [hh, History.extend, react_settings, ih]

/-! ### Histories -/

variable {α : Type} (answer : String → String → StateM α (Except AnalyzerError String))

/-- **One operation more, and what is stored.**  Only a cycle reaches the store, and it asks
    it to keep the two texts as they are after the cycle, too. -/
theorem store_concat (settings : Settings) (ops : List Operation) (op : Operation)
    (o : Outside α Shelf) :
    let services := Services.of answer (.memory refusal)
    let h := history services settings ops o
    let next := history services settings (ops ++ [op]) o
    ∃ a, next = h.extend ⟨op, a⟩ next.current next.outside ∧
      (a.cycle? = none → next.outside.store = h.outside.store) ∧
      (a.cycle?.isSome → (∀ stage, next.current.buffer stage = h.current.buffer stage) ∧
        next.outside.store = h.current.afterCycle (.memory refusal) h.outside.store) := by
  intro services h next
  obtain ⟨answered, outside, hnext, -⟩ := history_react services settings ops op o
  have hstore : next.outside.store = _ := store_history answer (.memory refusal) settings ops op o
  have hcurrent : next.current = (h.current.react answered op).2 := congrArg History.current hnext
  have hcycle := isSome_cycle?_react h.current answered op
  refine ⟨(h.current.react answered op).1, ?_, ?_, ?_⟩
  · simp only [next]
    rw [hnext]
    rfl
  · intro hnone
    have hruns : h.current.runsCycle op = false := by rw [← hcycle, hnone]; rfl
    rw [hstore]
    exact if_neg (Bool.eq_false_iff.mp hruns)
  · intro hsome
    have hruns : h.current.runsCycle op = true := by rw [← hcycle, hsome]
    refine ⟨?_, ?_⟩
    · intro stage
      rw [hcurrent]
      exact react_buffer h.current answered hruns stage
    · rw [hstore]
      exact if_pos hruns

/-- The text of a stage, of the two texts of a cycle. -/
def textOf (texts : String × String) : Stage → String
  | .grammar => texts.1
  | .code => texts.2

/-- The texts of a stage that were kept, in the order of the cycles, when so many requests
    were made before the first one. -/
def History.kept {σ : Type} (h : History σ) (settings : Settings) (asked : Nat) (stage : Stage) :
    List String :=
  h.cycleTexts.zipIdx.filterMap fun (texts, n) =>
    let text := textOf texts stage
    if keeps refusal settings (asked + 2 * n) stage text then some text else none

theorem textOf_textsAfter {σ : Type} (h : History σ) (moments : List Moment) (stage : Stage) :
    textOf (h.textsAfter moments) stage = h.textAfter moments stage := by
  cases stage <;> rfl

/-- One operation more, and the texts that were kept. -/
theorem kept_extend {σ : Type} (h : History σ) (m : Moment) (c : Controller) (s : σ)
    (settings : Settings) (asked : Nat) (stage : Stage) :
    (h.extend m c s).kept refusal settings asked stage =
      h.kept refusal settings asked stage ++
        if m.answer.cycle?.isSome ∧ keeps refusal settings (asked + 2 * h.cycleTexts.length) stage
            (h.textAfter h.moments stage) then [h.textAfter h.moments stage]
        else [] := by
  simp only [History.kept, cycleTexts_extend, List.zipIdx_append, List.filterMap_append]
  congr 1
  cases m.answer.cycle? with
  | none => simp
  | some outcome =>
    simp only [Option.map_some, Option.toList_some, Option.isSome_some, true_and,
      List.zipIdx_singleton, List.filterMap_cons, List.filterMap_nil, textOf_textsAfter,
      Nat.zero_add]
    cases keeps refusal settings (asked + 2 * h.cycleTexts.length) stage
      (h.textAfter h.moments stage) <;> rfl

/-- **What is stored after any operations**: under the key of a stage the last text of it
    that was kept, and under the other keys what was there at first. -/
theorem stored_current (settings : Settings) (hkeys : settings.grammarKey ≠ settings.codeKey)
    (ops : List Operation) (o : Outside α Shelf) :
    let h := history (Services.of answer (.memory refusal)) settings ops o
    h.outside.store.asked = o.store.asked + 2 * h.cycleTexts.length ∧
      (∀ stage, h.outside.store.entries.get? (settings.key stage) =
        (h.kept refusal settings o.store.asked stage).getLast?.or
          (o.store.entries.get? (settings.key stage))) ∧
      ∀ key, (∀ stage, key ≠ settings.key stage) →
        h.outside.store.entries.get? key = o.store.entries.get? key := by
  induction ops using List.reverseRecOn with
  | nil => exact ⟨rfl, fun _ => rfl, fun _ _ => rfl⟩
  | append_singleton ops op ih =>
    obtain ⟨a, hnext, hquiet, hcycle⟩ := store_concat refusal answer settings ops op o
    have hsettings := settings_current (Services.of answer (.memory refusal)) settings ops o
    have htext := text_current (Services.of answer (.memory refusal)) settings ops o
    simp only at ih htext ⊢
    generalize history (Services.of answer (.memory refusal)) settings ops o = h at *
    generalize history (Services.of answer (.memory refusal)) settings (ops ++ [op]) o = next at *
    obtain ⟨hasked, hstage, hother⟩ := ih
    cases hsome : a.cycle?.isSome with
    | false =>
      -- Nothing is stored, and there is no text that could have been kept.
      have hnone : a.cycle? = none := by simpa using hsome
      rw [hquiet hnone, hnext, cycleTexts_extend, hnone]
      refine ⟨by simpa using hasked, ?_, hother⟩
      intro stage
      simpa [kept_extend, hnone] using hstage stage
    | true =>
      obtain ⟨-, hstore⟩ := hcycle hsome
      subst hsettings
      obtain ⟨outcome, houtcome⟩ := Option.isSome_iff_exists.mp hsome
      rw [hstore, hnext, cycleTexts_extend, houtcome]
      refine ⟨?_, ?_, ?_⟩
      · rw [asked_afterCycle, hasked]
        simp
        omega
      · intro stage
        rw [get?_afterCycle refusal _ hkeys, hstage stage, kept_extend, houtcome, htext stage,
          hasked, List.getLast?_append]
        simp only [Option.isSome_some, true_and]
        split <;> rfl
      · intro key hkey
        rw [get?_afterCycle_of_ne refusal _ _ hkey, hother key hkey]

/-! ### The law -/

/-- Restoring reads what a cycle has stored, if both of its texts were kept. -/
theorem restore_afterCycle {β : Type} (c : Controller)
    (hkeys : c.settings.grammarKey ≠ c.settings.codeKey) (t : Shelf)
    (hkept : ∀ stage, keeps refusal c.settings t.asked stage (c.buffer stage).text)
    (answer : String → String → StateM β (Except AnalyzerError String))
    (refusal' : Nat → String → String → Option StoreError) (o : Outside β Shelf)
    (hentries : o.store.entries = (c.afterCycle (.memory refusal) t).entries) :
    let again := ((restore (Services.of answer (.memory refusal')) c.settings).run o).1
    again.phase = .idle ∧
      ∀ stage, again.buffer stage = ⟨stage, (c.buffer stage).text, 0, ⟨0, 0⟩, false⟩ := by
  intro again
  refine ⟨rfl, ?_⟩
  intro stage
  have hstored : o.store.entries.get? (c.settings.key stage) = some (c.buffer stage).text := by
    rw [hentries, get?_afterCycle refusal c hkeys, if_pos (hkept stage)]
  have hloaded : (again.buffer stage).text =
      (o.store.entries.get? (c.settings.key stage)).getD "" := by cases stage <;> rfl
  rw [hstored] at hloaded
  cases stage with
  | grammar => exact congrArg (Buffer.mk .grammar · 0 ⟨0, 0⟩ false) hloaded
  | code => exact congrArg (Buffer.mk .code · 0 ⟨0, 0⟩ false) hloaded

/-- **What is stored, and restored.**  Let the keys of the two texts differ, and let a store
    in memory refuse texts as it likes.  After any operations the key of a stage has the
    last text of the stage that was kept in a cycle, or what it had at first, and every
    other key has what it had at first.

    An operation that runs no cycle leaves the store as it is.  A cycle, however it ends,
    makes two requests, that of the grammar first: a stage whose request is not refused
    has its text under its key after that, and the other stage has there what it had,
    whatever comes of the one.  If neither is refused, then a pipeline that is restored from
    what is stored begins idle, with just these texts, unedited and with the cursors at the
    origin. -/
theorem cycle_texts_stored (settings : Settings) (hkeys : settings.grammarKey ≠ settings.codeKey)
    (ops : List Operation) (o : Outside α Shelf) :
    let services := Services.of answer (.memory refusal)
    let h := history services settings ops o
    let shelf := h.outside.store
    (∀ stage, shelf.entries.get? (settings.key stage) =
      (h.kept refusal settings o.store.asked stage).getLast?.or
        (o.store.entries.get? (settings.key stage))) ∧
    (∀ key, (∀ stage, key ≠ settings.key stage) →
      shelf.entries.get? key = o.store.entries.get? key) ∧
    ∀ op, ∃ a,
      let next := history services settings (ops ++ [op]) o
      let shelf' := next.outside.store
      let kept := fun stage => (refusal (shelf.asked + stage.index) (settings.key stage)
        (next.current.buffer stage).text).isNone
      next.moments = h.moments ++ [⟨op, a⟩] ∧
      (a.cycle? = none → shelf' = shelf) ∧
      ∀ outcome, a.cycle? = some outcome →
        shelf'.asked = shelf.asked + 2 ∧
        (∀ stage, shelf'.entries.get? (settings.key stage) =
          if kept stage then some (next.current.buffer stage).text
          else shelf.entries.get? (settings.key stage)) ∧
        (∀ key, (∀ stage, key ≠ settings.key stage) →
          shelf'.entries.get? key = shelf.entries.get? key) ∧
        ((∀ stage, kept stage) → ∀ (β : Type)
          (answer' : String → String → StateM β (Except AnalyzerError String))
          (refusal' : Nat → String → String → Option StoreError) (o' : Outside β Shelf),
          o'.store.entries = shelf'.entries →
          let again := ((restore (Services.of answer' (.memory refusal')) settings).run o').1
          again.phase = .idle ∧
          ∀ stage, again.buffer stage =
            ⟨stage, (next.current.buffer stage).text, 0, ⟨0, 0⟩, false⟩) := by
  intro services h shelf
  obtain ⟨-, hstage, hother⟩ := stored_current refusal answer settings hkeys ops o
  refine ⟨hstage, hother, ?_⟩
  intro op
  obtain ⟨a, hnext, hquiet, hcycle⟩ := store_concat refusal answer settings ops op o
  refine ⟨a, congrArg History.moments hnext, hquiet, ?_⟩
  intro outcome houtcome
  have hbuffer : ∀ stage, (history services settings (ops ++ [op]) o).current.buffer stage =
      h.current.buffer stage := (hcycle (by rw [houtcome]; rfl)).1
  have hstore : (history services settings (ops ++ [op]) o).outside.store =
      h.current.afterCycle (.memory refusal) shelf := (hcycle (by rw [houtcome]; rfl)).2
  have hsettings : h.current.settings = settings := settings_current services settings ops o
  have hstays : h.current.settings.grammarKey ≠ h.current.settings.codeKey := by rwa [hsettings]
  simp only [hstore, hbuffer]
  refine ⟨asked_afterCycle refusal h.current shelf, ?_, ?_, ?_⟩
  · intro stage
    rw [← hsettings]
    exact get?_afterCycle refusal h.current hstays shelf stage
  · intro key hkey
    rw [← hsettings] at hkey
    exact get?_afterCycle_of_ne refusal h.current shelf hkey
  · intro hkept β answer' refusal' o' hentries
    rw [← hsettings] at hkept ⊢
    exact restore_afterCycle refusal h.current hstays shelf hkept answer' refusal' o' hentries

/-- Refuses the first text of a grammar and the second text of the code. -/
def wayward (n : Nat) (key _ : String) : Option StoreError :=
  if n = 0 ∨ n = 3 then some (.rejected key "no") else none

/-- Each of the two texts is refused once, and stored one cycle later; after a third cycle,
    in which there is no grammar any more, both texts are restored. -/
theorem cycle_texts_stored_wayward :
    let services := Services.of failing (.memory wayward)
    let ops : List Operation := [.edit .grammar "c" 0, .start, .edit .code "b" 0, .poll 750,
      .edit .grammar "" 800]
    let o : Outside Nat Shelf := ⟨0, ⟨.ofList [("grammarText", "a"), ("other", "o")], 0⟩, [], []⟩
    let h := history services .standard ops o
    let next := history services .standard (ops ++ [.runCycle]) o
    let again := ((restore services .standard).run next.outside).1
    Settings.standard.grammarKey ≠ Settings.standard.codeKey ∧
      h.outside.store.entries = .ofList [("codeText", ""), ("grammarText", "c"), ("other", "o")] ∧
      again.phase = .idle ∧ again.buffer .grammar = ⟨.grammar, "", 0, .origin, false⟩ ∧
      again.buffer .code = ⟨.code, "b", 0, .origin, false⟩ := by
  intro services ops o h next again
  have hkeys : Settings.standard.grammarKey ≠ Settings.standard.codeKey := by decide
  have hentries : h.outside.store.entries =
      .ofList [("codeText", ""), ("grammarText", "c"), ("other", "o")] := by decide +kernel
  have hempty : next.moments.getLast?.map (·.answer) = some (.outcome .empty) := by decide +kernel
  have htexts : (next.current.buffer .grammar).text = "" ∧
      (next.current.buffer .code).text = "b" := by decide +kernel
  have hkept : ∀ stage : Stage, (wayward (h.outside.store.asked + stage.index)
      (Settings.standard.key stage) (next.current.buffer stage).text).isNone := by
    intro stage
    cases stage <;> decide +kernel
  obtain ⟨-, -, hops⟩ := cycle_texts_stored wayward failing .standard hkeys ops o
  obtain ⟨a, hmoments, -, hcycle⟩ := hops .runCycle
  -- The two histories are given names, so that nothing evaluates them once more.
  have hh : history (Services.of failing (.memory wayward)) .standard ops o = h := rfl
  have hnext : history (Services.of failing (.memory wayward)) .standard (ops ++ [.runCycle]) o =
    next := rfl
  rw [hh, hnext] at hmoments hcycle
  have ha : a = .outcome .empty := by
    rw [hmoments, List.getLast?_concat] at hempty
    exact Option.some.inj hempty
  obtain ⟨-, -, -, hrestored⟩ := hcycle .empty (by rw [ha]; rfl)
  obtain ⟨hidle, hbuffers⟩ := hrestored hkept Nat failing wayward next.outside rfl
  have hgrammar := hbuffers .grammar
  have hcode := hbuffers .code
  rw [htexts.1] at hgrammar
  rw [htexts.2] at hcode
  exact ⟨hkeys, hentries, hidle, hgrammar, hcode⟩

end Controller

end GrammarLint
