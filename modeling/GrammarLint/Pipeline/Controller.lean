/-
  GrammarLint/Pipeline/Controller.lean
  ====================================
  **The lint pipeline** — a state machine between edits of two texts and an analyzer
  that is called with both of them.

      idle, rendered --edit--> pending --due--> analyzing --> rendered

  A cycle stores both texts, calls the analyzer unless the grammar is empty, and shows
  the result; after a failure it goes on showing the result before.  The analyzer is
  called from inside the cycle and waited for, so cycles follow one another and are
  counted in order.

  What a cycle needs from outside — the analyzer, the store, the log — is a record of
  `Services` in some monad, and that is all the controller knows about it.  The state of
  the pipeline itself is a plain value, and everything a cycle does to it happens in the
  three pure functions `begin`, `conclude` and `settle`.
-/
import GrammarLint.Display.State
import GrammarLint.Pipeline.Buffer
import GrammarLint.Pipeline.Debouncer
import GrammarLint.Pipeline.Event
import GrammarLint.Settings

namespace GrammarLint

open Text

/-! ### What the pipeline uses -/

/-- The outside of the pipeline. -/
structure Services (m : Type → Type) where
  /-- Calls the analyzer with the grammar and the code; answers its raw response. -/
  analyze : String → String → m (Except AnalyzerError String)
  /-- The text that is stored under a key. -/
  load : String → m (Option String)
  persist : String → String → m (Except StoreError Unit)
  log : Event → m Unit

/-! ### States and answers -/

/-- Where the pipeline is. -/
inductive Phase where
  | idle
  | pending
  | analyzing
  /-- The last cycle is over, with a result or without. -/
  | rendered
deriving DecidableEq, Repr

def Phase.name : Phase → String
  | .idle => "idle"
  | .pending => "pending"
  | .analyzing => "analyzing"
  | .rendered => "rendered"

/-- How a cycle ended. -/
inductive Outcome where
  /-- The grammar is empty: nothing was analyzed and nothing is shown. -/
  | empty
  | rendered
  /-- There is no result; what was shown stays. -/
  | failed (error : AnalysisError)
deriving DecidableEq, Repr

namespace Outcome

def label : Outcome → String
  | .empty => "empty"
  | .rendered => "rendered"
  | .failed _ => "failed"

def error? : Outcome → Option AnalysisError
  | .failed e => some e
  | _ => none

def replacedDisplay (o : Outcome) : Bool := o.error?.isNone

end Outcome

/-- Where to move the cursor, and in which buffer. -/
structure Target where
  stage : Stage
  position : Position
deriving DecidableEq, Repr

def Target.written (t : Target) : List Char :=
  Json.object [("stage", t.stage.written), ("line", Json.digits t.position.line.toNat),
    ("column", Json.digits t.position.column.toNat)]

/-- The edit that a cycle is waiting for. -/
structure Trigger where
  stage : Stage
  version : Nat
deriving DecidableEq, Repr

/-- The state of the pipeline. -/
structure Controller where
  settings : Settings
  grammar : Buffer
  code : Buffer
  debouncer : Debouncer Trigger
  phase : Phase
  display : Display
  /-- How many cycles were begun. -/
  cycles : Nat
  /-- How often the analyzer was called. -/
  invocations : Nat
deriving DecidableEq, Repr

namespace Controller

/-! ### Pure steps -/

/-- A pipeline that has done nothing yet, with two texts loaded. -/
def fresh (settings : Settings) (grammar code : String) : Controller where
  settings
  grammar := (Buffer.new .grammar).load grammar
  code := (Buffer.new .code).load code
  debouncer := .new settings.debounceMs
  phase := .idle
  display := .cleared
  cycles := 0
  invocations := 0

def buffer (c : Controller) : Stage → Buffer
  | .grammar => c.grammar
  | .code => c.code

def updateBuffer (c : Controller) (f : Buffer → Buffer) : Stage → Controller
  | .grammar => { c with grammar := f c.grammar }
  | .code => { c with code := f c.code }

def snapshot (c : Controller) : Snapshot := .of c.grammar c.code

def begin (c : Controller) : Controller :=
  { c with phase := .analyzing, cycles := c.cycles + 1 }

/-- What comes of a cycle in which the analyzer was not called, or answered `answer`. -/
def conclude (c : Controller) :
    Option (Except AnalysisError AnalysisResult) → Outcome × Controller
  | none => (.empty, { c with display := .render none })
  | some answer =>
    let c := { c with invocations := c.invocations + 1 }
    match answer with
    | .ok result => (.rendered, { c with display := .render (some result) })
    | .error e => (.failed e, c)

/-- The end of a cycle: an edit may be waiting already. -/
def settle (c : Controller) : Controller :=
  { c with phase := if c.debouncer.isPending then .pending else .rendered }

/-- Moves the cursor to where a finding points, and the focus to that buffer. -/
def follow (c : Controller) (stage : Stage) (d : Diagnostic) : Target × Controller :=
  let c := c.updateBuffer Buffer.blur stage.other
  (⟨stage, d.target⟩, c.updateBuffer (fun b => (b.navigate d.target).focus) stage)

/-- Follows one of the findings that are shown for a stage, if there are so many. -/
def activate (c : Controller) (stage : Stage) (index : Nat) : Option Target × Controller :=
  match (c.display.stage stage).findings[index]? with
  | none => (none, c)
  | some d =>
    let (target, c) := c.follow stage d
    (some target, c)

/-- How long it takes until the waiting edit is due. -/
def timeUntilDue (c : Controller) (now : Nat) : Option Nat := c.debouncer.timeUntilDue now

/-! ### Steps with effects -/

variable {m : Type → Type} [Monad m]

/-- A pipeline with the texts that are stored; a text that is not stored is empty. -/
def restore (services : Services m) (settings : Settings) : m Controller := do
  let grammar ← services.load settings.grammarKey
  let code ← services.load settings.codeKey
  return fresh settings (grammar.getD "") (code.getD "")

/-- Stores a text; a failure is logged and has no other consequence. -/
def persist (services : Services m) (key text : String) : m Unit := do
  match ← services.persist key text with
  | .ok _ => return
  | .error e => services.log (.persistFailed key e)

/-- Calls the analyzer with the texts of a snapshot, unless the grammar is empty. -/
def consult (services : Services m) (s : Snapshot) :
    m (Option (Except AnalysisError AnalysisResult)) := do
  if s.grammar.isEmpty then return none
  let answer := interpret (← services.analyze s.grammar s.code)
  if let .error e := answer then
    services.log (.analysisFailed e s.grammarVersion s.codeVersion)
  return some answer

/-- Runs one cycle on the texts as they are now. -/
def runCycle (services : Services m) (c : Controller) : m (Outcome × Controller) := do
  let c := c.begin
  let s := c.snapshot
  persist services c.settings.grammarKey s.grammar
  persist services c.settings.codeKey s.code
  let (outcome, c) := c.conclude (← consult services s)
  let c := c.settle
  services.log (.finished c.cycles c.display.grammar.badge c.display.code.badge)
  return (outcome, c)

def start (services : Services m) (c : Controller) : m (Outcome × Controller) := do
  services.log (.starting c.grammar.text.utf8ByteSize c.code.text.utf8ByteSize)
  c.runCycle services

/-- Edits a text, and puts off the next cycle; answers the new version. -/
def edit (services : Services m) (c : Controller) (stage : Stage) (text : String) (now : Nat) :
    m (Nat × Controller) := do
  let c := c.updateBuffer (·.edit text) stage
  let version := (c.buffer stage).version
  let (replaced, debouncer) := c.debouncer.schedule ⟨stage, version⟩ now
  services.log (.scheduled stage version replaced)
  return (version, { c with debouncer, phase := .pending })

def poll (services : Services m) (c : Controller) (now : Nat) :
    m (Option Outcome × Controller) := do
  match c.debouncer.takeDue now with
  | (none, _) => return (none, c)
  | (some trigger, debouncer) =>
    services.log (.elapsed trigger.stage trigger.version)
    let (outcome, c) ← { c with debouncer }.runCycle services
    return (some outcome, c)

/-! ### Runs -/

/-- Everything that can be asked of a pipeline. -/
inductive Operation where
  | start
  | runCycle
  | edit (stage : Stage) (text : String) (now : Nat)
  | poll (now : Nat)
  | activate (stage : Stage) (index : Nat)
  | follow (stage : Stage) (diagnostic : Diagnostic)
deriving DecidableEq, Repr

/-- What an operation answers. -/
inductive Answer where
  | outcome (o : Outcome)
  | polled (o : Option Outcome)
  | version (n : Nat)
  | target (t : Option Target)
deriving DecidableEq, Repr

def perform (services : Services m) (c : Controller) : Operation → m (Answer × Controller)
  | .start => do
    let (o, c) ← c.start services
    return (.outcome o, c)
  | .runCycle => do
    let (o, c) ← c.runCycle services
    return (.outcome o, c)
  | .edit stage text now => do
    let (n, c) ← c.edit services stage text now
    return (.version n, c)
  | .poll now => do
    let (o, c) ← c.poll services now
    return (.polled o, c)
  | .activate stage index =>
    let (t, c) := c.activate stage index
    return (.target t, c)
  | .follow stage d =>
    let (t, c) := c.follow stage d
    return (.target (some t), c)

/-- Carries out operations one after another; answers in the same order. -/
def performAll (services : Services m) (c : Controller) :
    List Operation → m (List Answer × Controller)
  | [] => return ([], c)
  | op :: ops => do
    let (answer, c) ← c.perform services op
    let (answers, c) ← c.performAll services ops
    return (answer :: answers, c)

end Controller

end GrammarLint
