/-
  GrammarLint/Store/Error.lean
  ============================
  **Failures of a store** — why a text could not be kept.
-/

namespace GrammarLint

/-- Why a store did not keep a value. -/
inductive StoreError where
  /-- What the store writes to failed. -/
  | write (key cause : String)
  /-- The store does not want the value. -/
  | rejected (key reason : String)
deriving DecidableEq, Repr

def StoreError.message : StoreError → String
  | .write key cause => "failed to write '" ++ key ++ "': " ++ cause
  | .rejected key reason => "store rejected '" ++ key ++ "': " ++ reason

end GrammarLint
