/-
  GrammarLint/Session/Lint.lean
  =============================
  **Linting once** — one cycle on the texts of two files.
-/
import GrammarLint.Session.Basic

namespace GrammarLint

namespace Session

/-- The status that a session ends with after one cycle: 2 if it failed, 1 if something
    was found, and 0 otherwise. -/
def lintStatus (outcome : Outcome) (d : Display) : Nat :=
  match outcome with
  | .failed _ => 2
  | _ => if d.hasFindings then 1 else 0

variable {m : Type → Type} [Monad m]

/-- Runs one cycle on two texts and makes its report. -/
def lintTexts (s : Session m) (format : Format) (job : Job) (settings : Settings)
    (grammar code : String) : m Nat := do
  let vault := Vault.inMemory
    (.ofList [(settings.grammarKey, grammar), (settings.codeKey, code)])
  let services := s.services job.analyzer
  let (c, vault) ← (Controller.restore services settings).run vault
  let ((outcome, c), _) ← (c.start services).run vault
  s.announce format job c outcome
  return lintStatus outcome c.display

def lint (s : Session m) (format : Format) (job : Job) : m (Except Trouble Nat) := do
  match ← s.settings job with
  | .error trouble => return .error trouble
  | .ok settings =>
    match ← s.source job .grammar with
    | .error trouble => return .error trouble
    | .ok grammar =>
      match ← s.source job .code with
      | .error trouble => return .error trouble
      | .ok code => return .ok (← s.lintTexts format job settings grammar code)

end Session

end GrammarLint
