/-
  GrammarLint/Session/Run.lean
  ============================
  **Running the program** — from the arguments on the command line to the status that it
  ends with.
-/
import GrammarLint.CommandLine.Program
import GrammarLint.Session.Lint
import GrammarLint.Session.Watch

namespace GrammarLint

/-- What the program is started with. -/
structure Start where
  arguments : List String
  /-- The setting of the log, if there is one. -/
  log : Option String
  /-- Whether the standard output is a terminal. -/
  terminal : Bool
deriving DecidableEq, Repr

namespace Session

variable {m : Type → Type} [Monad m]

/-- Answers a command line on which nothing is to be done; answers the status. -/
def reply (host : Host m) : CommandLine.Reply → m Nat
  | .page text => do
    host.write .out text
    return 0
  | .introduction text => do
    host.write .err text
    return 2
  | .refused refusal => do
    host.write .err refusal.text
    return 2

def fail (host : Host m) (trouble : Trouble) : m Nat := do
  host.write .err trouble.message
  return 1

def ofInvocation (host : Host m) (start : Start) (i : Invocation) : Session m :=
  ⟨host, .choose start.log i.verbose⟩

/-- The format of the reports: the one that was asked for, or the one that suits the
    standard output. -/
def formatOf (start : Start) (i : Invocation) : Format :=
  i.format.getD (if start.terminal then .pretty else .json)

def carryOut (s : Session m) (format : Format) (order : Order) (steps : Nat) :
    m (Except Trouble (Option Nat)) :=
  match order with
  | .lint job => return (← s.lint format job).map some
  | .watch w => s.watch format w steps

/-- Runs the program; if it watches files, for so many steps at most.  Answers the
    status, or nothing if it was not reached. -/
def run (host : Host m) (start : Start) (steps : Nat) : m (Option Nat) := do
  match CommandLine.invocation start.arguments with
  | .error r => return some (← reply host r)
  | .ok i =>
    match ← (ofInvocation host start i).carryOut (formatOf start i) i.order steps with
    | .error trouble => return some (← fail host trouble)
    | .ok status => return status

end Session

end GrammarLint
