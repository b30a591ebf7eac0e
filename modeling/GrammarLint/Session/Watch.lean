/-
  GrammarLint/Session/Watch.lean
  ==============================
  **Watching two files** — a cycle at the start, and another one whenever a file has
  changed and then been left alone for a while.

  At the start a file counts before the text that is kept for it, and a file that is
  missing is made again from that text.  After that the files are looked at over and
  over.  One that cannot be read is passed over, so its last text stays; one whose text
  has changed is an edit, and the cycle comes when the pipeline says that it is due.
-/
import GrammarLint.Session.Basic

namespace GrammarLint

namespace Session

variable {m : Type → Type} [Monad m]

/-! ### What is logged -/

/-- The part of the program that these records come from. -/
def logTarget : String := "peglint"

def restoredRecord (stage : Stage) (path : String) : Log.Record :=
  ⟨.info, logTarget, "restored from saved state",
    [("stage", .text stage.name), ("path", .text path)]⟩

def notKeptRecord (stage : Stage) (error : StoreError) : Log.Record :=
  ⟨.warn, logTarget, "failed to persist buffer",
    [("stage", .text stage.name), ("error", .text error.message)]⟩

def skippedRecord (stage : Stage) (error : FileError) : Log.Record :=
  ⟨.debug, logTarget, "skipping unreadable file",
    [("stage", .text stage.name), ("error", .text error.message)]⟩

/-! ### The start -/

def openVault (s : Session m) (state : Option String) : m (Except Trouble Vault) :=
  match state with
  | none => return .ok (.inMemory .empty)
  | some path => return (← Vault.openFile s.host path).mapError (.stateUnusable path)

/-- Brings a file and the vault together: keeps the text of the file, or makes the file
    from the text that is kept. -/
def adopt (s : Session m) (job : Job) (settings : Settings) (stage : Stage) (vault : Vault) :
    m (Except Trouble Vault) := do
  let path := job.path stage
  let key := settings.key stage
  if ← s.host.pathExists path then
    match ← s.source job stage with
    | .error trouble => return .error trouble
    | .ok text =>
      let (kept, vault) ← vault.set s.host key text
      if let .error e := kept then s.note (notKeptRecord stage e)
      return .ok vault
  else
    match ← s.host.writeText path ((vault.get? key).getD "") with
    | .error e => return .error (.notRestored path e)
    | .ok _ =>
      s.note (restoredRecord stage path)
      return .ok vault

/-- Runs the first cycle on the texts that are kept. -/
def firstCycle (s : Session m) (format : Format) (job : Job) (settings : Settings) :
    StateT Vault m Controller := do
  let services := s.services job.analyzer
  let c ← Controller.restore services settings
  let (outcome, c) ← c.start services
  StateT.lift (s.announce format job c outcome)
  return c

/-- Begins to watch: everything up to the end of the first cycle. -/
def beginWatch (s : Session m) (format : Format) (w : WatchJob) :
    m (Except Trouble (Controller × Vault)) := do
  match ← s.settings w.job with
  | .error trouble => return .error trouble
  | .ok settings =>
    match ← s.openVault w.state with
    | .error trouble => return .error trouble
    | .ok vault =>
      match ← s.adopt w.job settings .grammar vault with
      | .error trouble => return .error trouble
      | .ok vault =>
        match ← s.adopt w.job settings .code vault with
        | .error trouble => return .error trouble
        | .ok vault => return .ok (← (s.firstCycle format w.job settings).run vault)

/-! ### Going on -/

def reread (s : Session m) (job : Job) (stage : Stage) (c : Controller) :
    StateT Vault m Controller := do
  match ← StateT.lift (s.host.readText (job.path stage)) with
  | .error e =>
    StateT.lift (s.note (skippedRecord stage e))
    return c
  | .ok text =>
    if text = (c.buffer stage).text then return c
    let now ← StateT.lift s.host.now
    let (_, c) ← c.edit (s.services job.analyzer) stage text now
    return c

/-- How long to wait until the files are looked at again. -/
def pause (w : WatchJob) (c : Controller) (now : Nat) : Nat :=
  let poll := max w.pollMs 1
  match c.timeUntilDue now with
  | none => poll
  | some due => min due poll

/-- Looks at both files, and then runs a cycle if one is due or waits for a while. -/
def watchStep (s : Session m) (format : Format) (w : WatchJob) (c : Controller) :
    StateT Vault m Controller := do
  let c ← s.reread w.job .grammar c
  let c ← s.reread w.job .code c
  let (outcome, c) ← c.poll (s.services w.job.analyzer) (← StateT.lift s.host.now)
  match outcome with
  | some outcome =>
    StateT.lift (s.announce format w.job c outcome)
    return c
  | none =>
    StateT.lift (s.host.sleep (pause w c (← StateT.lift s.host.now)))
    return c

def watchedEnough (w : WatchJob) (c : Controller) : Bool :=
  match w.cycles with
  | none => false
  | some n => n ≤ c.cycles

/-- Goes on until enough cycles were run, for so many steps at most; answers nothing if
    it was not done by then. -/
def watchOn (s : Session m) (format : Format) (w : WatchJob) :
    Nat → Controller → StateT Vault m (Option Controller)
  | 0, c => return if watchedEnough w c then some c else none
  | steps + 1, c => do
    if watchedEnough w c then return some c
    s.watchOn format w steps (← s.watchStep format w c)

/-- Watches two files for so many steps at most; answers the status at the end, or
    nothing if it was not reached. -/
def watch (s : Session m) (format : Format) (w : WatchJob) (steps : Nat) :
    m (Except Trouble (Option Nat)) := do
  match ← s.beginWatch format w with
  | .error trouble => return .error trouble
  | .ok (c, vault) =>
    let (c, _) ← (s.watchOn format w steps c).run vault
    return .ok (c.map fun _ => 0)

end Session

end GrammarLint
