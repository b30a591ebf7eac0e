/-
  GrammarLint/Session/Analyzer.lean
  =================================
  **An analyzer that is a program** — the request it is sent, and what its end means.

  The request is one compact JSON object with both texts.  The response is what the
  program writes to its standard output, and it counts only if the program succeeds; a
  program may answer without reading its request to the end.
-/
import GrammarLint.Analysis.Result
import GrammarLint.Session.Host
import GrammarLint.Text.Blank

namespace GrammarLint

open Text

/-- The request for an analysis of two texts. -/
def request (grammar code : String) : String :=
  String.ofList (Json.object [("code", Json.literal code), ("grammar", Json.literal grammar)])

def signalNames : List String :=
  ["SIGHUP", "SIGINT", "SIGQUIT", "SIGILL", "SIGTRAP", "SIGABRT", "SIGBUS", "SIGFPE",
   "SIGKILL", "SIGUSR1", "SIGSEGV", "SIGUSR2", "SIGPIPE", "SIGALRM", "SIGTERM",
   "SIGSTKFLT", "SIGCHLD", "SIGCONT", "SIGSTOP", "SIGTSTP", "SIGTTIN", "SIGTTOU", "SIGURG",
   "SIGXCPU", "SIGXFSZ", "SIGVTALRM", "SIGPROF", "SIGWINCH", "SIGIO", "SIGPWR", "SIGSYS"]

namespace ExitStatus

def success (s : ExitStatus) : Bool := s == .code 0

def describe : ExitStatus → String
  | .code n => "exit status: " ++ toString n
  | .signal n =>
    "signal: " ++ toString n ++
      match signalNames[n - 1]? with
      | some name => if n = 0 then "" else " (" ++ name ++ ")"
      | none => ""

end ExitStatus

/-- What the run of the program `name` answers. -/
def Launch.answer (name : String) : Launch → Except AnalyzerError String
  | .notStarted reason => .error ⟨"failed to run analyzer '" ++ name ++ "'", some reason⟩
  | .lost reason => .error ⟨"analyzer '" ++ name ++ "' did not finish", some reason⟩
  | .ended status stdout stderr delivery =>
    if !status.success then
      .error ⟨"analyzer '" ++ name ++ "' exited with " ++ status.describe ++ ": " ++
        trim (readLossy stderr), none⟩
    else
      match delivery with
      | .failed reason =>
        .error ⟨"failed to send request to analyzer '" ++ name ++ "'", some reason⟩
      | _ =>
        match read? stdout with
        | some text => .ok text
        | none => .error ⟨"analyzer '" ++ name ++ "' wrote non-UTF-8 output", some "invalid utf-8"⟩

def Program.analyze {m : Type → Type} [Monad m] (program : Program) (host : Host m)
    (grammar code : String) : m (Except AnalyzerError String) := do
  return (← host.launch program (request grammar code)).answer program.name

end GrammarLint
