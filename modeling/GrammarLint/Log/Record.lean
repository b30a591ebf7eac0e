/-
  GrammarLint/Log/Record.lean
  ===========================
  **Log records** — what is logged, before it is decided whether and how it is shown:
  a level, the part of the program it comes from, a message and named values.
-/

namespace GrammarLint.Log

/-- How important a record is, from the most important on. -/
inductive Level where
  | error
  | warn
  | info
  | debug
  | trace
deriving DecidableEq, Repr

namespace Level

/-- How much has to be let through for a level to be shown. -/
def verbosity : Level → Nat
  | .error => 1
  | .warn => 2
  | .info => 3
  | .debug => 4
  | .trace => 5

def name : Level → String
  | .error => "ERROR"
  | .warn => "WARN"
  | .info => "INFO"
  | .debug => "DEBUG"
  | .trace => "TRACE"

end Level

/-- A value that is logged. -/
inductive Value where
  | text (s : String)
  | number (n : Nat)
  | flag (b : Bool)
deriving DecidableEq, Repr

def Value.show : Value → String
  | .text s => s
  | .number n => toString n
  | .flag b => toString b

/-- Everything that is logged at once. -/
structure Record where
  level : Level
  target : String
  message : String
  fields : List (String × Value)
deriving DecidableEq, Repr

end GrammarLint.Log
