/-
  GrammarLint/Session/Job.lean
  ============================
  **What a session is asked to do** — the two files, the analyzer, the settings, and how
  long to go on.
-/
import GrammarLint.Report.Cycle
import GrammarLint.Session.Host

namespace GrammarLint

/-- Two files to be linted. -/
structure Job where
  grammar : String
  code : String
  analyzer : Program
  config : Option String
  /-- A waiting time that counts before that of the settings. -/
  debounceMs : Option Nat
deriving DecidableEq, Repr

def Job.path (j : Job) : Stage → String
  | .grammar => j.grammar
  | .code => j.code

/-- Two files to be watched. -/
structure WatchJob where
  job : Job
  /-- The file that the texts are kept in. -/
  state : Option String
  /-- How long to wait before the files are looked at again, in milliseconds. -/
  pollMs : Nat
  /-- After how many cycles to end; the first one counts always. -/
  cycles : Option Nat
deriving DecidableEq, Repr

/-- What to do. -/
inductive Order where
  | lint (job : Job)
  | watch (job : WatchJob)
deriving DecidableEq, Repr

/-- What to do, and how to report about it. -/
structure Invocation where
  order : Order
  format : Option Format
  verbose : Bool
deriving DecidableEq, Repr

end GrammarLint
