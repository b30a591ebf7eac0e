/-
  GrammarLint/Proofs/Pipeline/Outside.lean
  ========================================
  **The outside of a pipeline, in parts** — an analyzer and a store that know nothing of
  each other, the calls of the analyzer, and what is logged.

  The analyzer and the store have a state of their own each, and may do with it what they
  like: answers may change or fail from call to call, and a store may keep a text, lose
  it, or refuse it.  `Services.of` puts the parts together to the services of a pipeline.

  What an operation makes of the store is said once and for all (`stores_effects`): a
  cycle asks it to keep the two texts, first that of the grammar and then that of the
  code, whatever comes of either; nothing else reaches the store.
-/
import GrammarLint.Proofs.Pipeline.Calls
import GrammarLint.Store.Entries

namespace GrammarLint

variable {α τ β γ : Type}

/-! ### The parts -/

/-- A store with a state of its own. -/
structure Store (τ : Type) where
  load : String → StateM τ (Option String)
  keep : String → String → StateM τ (Except StoreError Unit)

/-- The text that is loaded under a key, and what becomes of the store. -/
def Store.text (store : Store τ) (key : String) (t : τ) : String × τ :=
  (((store.load key).run t).1.getD "", ((store.load key).run t).2)

def Store.after (store : Store τ) (key text : String) (t : τ) : τ :=
  ((store.keep key text).run t).2

/-- The two texts that a pipeline is restored with. -/
def Store.texts (store : Store τ) (settings : Settings) (t : τ) : String × String :=
  let grammar := store.text settings.grammarKey t
  (grammar.1, (store.text settings.codeKey grammar.2).1)

/-- The state of everything outside of a pipeline. -/
structure Outside (α τ : Type) where
  analyzer : α
  store : τ
  calls : List Call
  events : List Event

/-- The services that an analyzer and a store are. -/
def Services.of (answer : String → String → StateM α (Except AnalyzerError String))
    (store : Store τ) : Services (StateM (Outside α τ)) where
  analyze grammar code := fun o =>
    let answered := (answer grammar code).run o.analyzer
    (answered.1, { o with analyzer := answered.2, calls := o.calls ++ [(grammar, code)] })
  load key := fun o =>
    let loaded := (store.load key).run o.store
    (loaded.1, { o with store := loaded.2 })
  persist key text := fun o =>
    let kept := (store.keep key text).run o.store
    (kept.1, { o with store := kept.2 })
  log event := fun o => ((), { o with events := o.events ++ [event] })

/-! ### A store in memory -/

/-- The state of a store in memory: what it holds, and how often it was asked to keep a
    text. -/
structure Shelf where
  entries : Entries
  asked : Nat
deriving DecidableEq

/-- A store in memory that refuses texts as `refusal` says, for the number of the request,
    the key and the text.  What it refuses it does not store. -/
def Store.memory (refusal : Nat → String → String → Option StoreError) : Store Shelf where
  load key := fun t => (t.entries.get? key, t)
  keep key text := fun t =>
    match refusal t.asked key text with
    | some e => (.error e, ⟨t.entries, t.asked + 1⟩)
    | none => (.ok (), ⟨t.entries.insert key text, t.asked + 1⟩)

/-! ### What becomes of the store -/

/-- A computation that makes the same change to the store whatever else there is. -/
def Stores (change : τ → τ) (x : StateM (Outside α τ) β) : Prop :=
  ∀ o, (x.run o).2.store = change o.store

theorem stores_pure (b : β) : Stores id (pure b : StateM (Outside α τ) β) := by
  intro o
  rfl

theorem Stores.bind {change next : τ → τ} {x : StateM (Outside α τ) β}
    {f : β → StateM (Outside α τ) γ} (hx : Stores change x) (hf : ∀ b, Stores next (f b)) :
    Stores (fun t => next (change t)) (x >>= f) := by
  intro o
  rw [run_bind_state, hf, hx]

theorem Stores.bind_idle {change : τ → τ} {x : StateM (Outside α τ) β}
    {f : β → StateM (Outside α τ) γ} (hx : Stores change x) (hf : ∀ b, Stores id (f b)) :
    Stores change (x >>= f) :=
  hx.bind hf

namespace Controller

variable (answer : String → String → StateM α (Except AnalyzerError String)) (store : Store τ)

theorem stores_log (event : Event) : Stores id ((Services.of answer store).log event) := by
  intro o
  rfl

/-- Whether the store keeps a text or not, a failure is logged at most. -/
theorem stores_persist (key text : String) :
    Stores (store.after key text) (persist (Services.of answer store) key text) := by
  have hkeep : Stores (store.after key text) ((Services.of answer store).persist key text) := by
    intro o
    rfl
  apply hkeep.bind_idle
  intro result
  cases result with
  | ok _ => exact stores_pure _
  | error e => exact stores_log answer store _

theorem stores_consult (snapshot : Snapshot) :
    Stores id (consult (Services.of answer store) snapshot) := by
  unfold consult
  cases snapshot.grammar.isEmpty with
  | true => exact stores_pure _
  | false =>
    have hcall : Stores id ((Services.of answer store).analyze snapshot.grammar snapshot.code) := by
      intro o
      rfl
    apply hcall.bind
    intro raw
    cases interpret raw with
    | ok result => exact stores_pure _
    | error e => exact (stores_log answer store _).bind fun _ => stores_pure _

/-- The store after a cycle: it was asked to keep both texts. -/
def afterCycle (c : Controller) (store : Store τ) (t : τ) : τ :=
  store.after c.settings.codeKey c.code.text
    (store.after c.settings.grammarKey c.grammar.text t)

theorem stores_attend (c : Controller) :
    Stores (c.afterCycle store) (c.attend (Services.of answer store)) := by
  have hconsult : Stores id (do
      let result ← consult (Services.of answer store) c.snapshot
      (Services.of answer store).log (c.cycled result).2.finishedEvent
      return result) := by
    apply (stores_consult answer store c.snapshot).bind
    intro result
    exact (stores_log answer store _).bind fun _ => stores_pure result
  have hcode : Stores (store.after c.settings.codeKey c.code.text) (do
      persist (Services.of answer store) c.settings.codeKey c.code.text
      let result ← consult (Services.of answer store) c.snapshot
      (Services.of answer store).log (c.cycled result).2.finishedEvent
      return result) :=
    (stores_persist answer store _ _).bind fun _ => hconsult
  exact (stores_persist answer store c.settings.grammarKey c.grammar.text).bind fun _ => hcode

/-- **What an operation makes of the store**: a cycle asks it to keep both texts, and
    nothing else reaches it. -/
theorem stores_effects (c : Controller) (op : Operation) :
    Stores (if c.runsCycle op then c.afterCycle store else id)
      (c.effects (Services.of answer store) op) := by
  cases op with
  | start => exact (stores_log answer store _).bind fun _ => stores_attend answer store c
  | runCycle => exact stores_attend answer store c
  | edit stage text now => exact (stores_log answer store _).bind fun _ => stores_pure _
  | poll now =>
    by_cases hdue : c.debouncer.Due now
    · have hruns : c.runsCycle (.poll now) = true := by simp [runsCycle, hdue]
      obtain ⟨p, hp, hle⟩ := hdue
      rw [effects_poll_of_pending _ hp hle, hruns, if_pos rfl]
      exact (stores_log answer store _).bind fun _ => stores_attend answer store c.disarmed
    · have hruns : c.runsCycle (.poll now) = false := by simp [runsCycle, hdue]
      rw [effects_poll_of_not_due _ hdue, hruns, if_neg Bool.false_ne_true]
      exact stores_pure _
  | activate stage index => exact stores_pure _
  | follow stage d => exact stores_pure _

theorem store_history (settings : Settings) (ops : List Operation) (op : Operation)
    (o : Outside α τ) :
    let services := Services.of answer store
    let h := history services settings ops o
    (history services settings (ops ++ [op]) o).outside.store =
      if h.current.runsCycle op then h.current.afterCycle store h.outside.store
      else h.outside.store := by
  intro services h
  obtain ⟨result, hrun, -⟩ := perform_run services h.current op h.outside
  have hstore := stores_effects answer store h.current op h.outside
  rw [history_concat, History.extend]
  simp only [h, services] at hrun hstore ⊢
  rw [hrun, hstore]
  split <;> rfl

end Controller

end GrammarLint
