/-
  GrammarLint/Session/Basic.lean
  ==============================
  **Sessions** — a pipeline that runs on a machine: its analyzer is a program, its store
  is a vault, and its events go to the log.

  The vault is the only state that a session keeps apart from the pipeline, and it is
  the state of the monad that the services run in.
-/
import GrammarLint.Log.Filter
import GrammarLint.Log.Line
import GrammarLint.Session.Analyzer
import GrammarLint.Session.Job
import GrammarLint.Session.Trouble

namespace GrammarLint

/-- A machine, and the part of the log that is shown. -/
structure Session (m : Type → Type) where
  host : Host m
  filter : Log.Filter

namespace Session

variable {m : Type → Type} [Monad m]

def note (s : Session m) (r : Log.Record) : m Unit :=
  if s.filter.shows r then s.host.write .err r.line else return

/-- The services of a pipeline whose analyzer is a program. -/
def services (s : Session m) (analyzer : Program) : Services (StateT Vault m) where
  analyze grammar code := StateT.lift (analyzer.analyze s.host grammar code)
  load key := fun vault => return (vault.get? key, vault)
  persist key text := fun vault => vault.set s.host key text
  log event := StateT.lift (s.note event.record)

def announce (s : Session m) (format : Format) (job : Job) (c : Controller)
    (outcome : Outcome) : m Unit :=
  s.host.writeAll (report format job.path c outcome)

/-- The settings for a job: those of its file, or the standard ones, with the waiting
    time that is given with the job. -/
def settings (s : Session m) (job : Job) : m (Except Trouble Settings) := do
  let adjust (settings : Settings) : Settings :=
    { settings with debounceMs := job.debounceMs.getD settings.debounceMs }
  match job.config with
  | none => return .ok (adjust .standard)
  | some path =>
    match ← s.host.readText path with
    | .error e => return .error (.configUnreadable path e)
    | .ok text =>
      match Settings.load text with
      | .error offence => return .error (.configRefused path offence)
      | .ok settings => return .ok (adjust settings)

def source (s : Session m) (job : Job) (stage : Stage) : m (Except Trouble String) :=
  return (← s.host.readText (job.path stage)).mapError (.sourceUnreadable (job.path stage))

end Session

end GrammarLint
