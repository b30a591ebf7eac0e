/-
  GrammarLint/Session/Trouble.lean
  ================================
  **Why a session cannot begin** — files that cannot be read, or do not say what they
  should.
-/
import GrammarLint.Session.Vault
import GrammarLint.Settings

namespace GrammarLint

/-- Why a session cannot begin. -/
inductive Trouble where
  | configUnreadable (path : String) (error : FileError)
  | configRefused (path : String) (offence : Settings.Offence)
  | sourceUnreadable (path : String) (error : FileError)
  | stateUnusable (path : String) (error : Vault.OpenError)
  | notRestored (path : String) (error : FileError)
deriving DecidableEq, Repr

namespace Trouble

def context : Trouble → String
  | .configUnreadable path _ => "failed to read config '" ++ path ++ "'"
  | .configRefused path _ => "invalid config '" ++ path ++ "'"
  | .sourceUnreadable path _ => "failed to read '" ++ path ++ "'"
  | .stateUnusable path (.unreadable _) => "failed to read state file '" ++ path ++ "'"
  | .stateUnusable path (.malformed _) =>
    "state file '" ++ path ++ "' is not a JSON object of strings"
  | .notRestored path _ => "failed to restore '" ++ path ++ "'"

def causes : Trouble → List String
  | .configUnreadable _ e | .sourceUnreadable _ e | .notRestored _ e => [e.message]
  | .configRefused _ offence => offence.message :: offence.sources
  | .stateUnusable _ (.unreadable e) => [e.message]
  | .stateUnusable _ (.malformed defect) => [defect.message]

/-- A text whose lines behind the first begin with `margin`. -/
def indented (margin text : String) : String :=
  String.ofList (text.toList.flatMap fun c => if c = '\n' then '\n' :: margin.toList else [c])

/-- The causes as a list, which is numbered if there are several. -/
def causeLines : List String → String
  | [cause] => "    " ++ indented "    " cause
  | causes =>
    "\n".intercalate (causes.zipIdx.map fun (cause, i) =>
      let number := toString i
      String.ofList (List.replicate (5 - number.length) ' ') ++ number ++ ": " ++
        indented "       " cause)

def message (t : Trouble) : String :=
  "Error: " ++ t.context ++ "\n\nCaused by:\n" ++ causeLines t.causes ++ "\n"

end Trouble

end GrammarLint
