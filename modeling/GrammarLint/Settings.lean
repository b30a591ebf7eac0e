/-
  GrammarLint/Settings.lean
  =========================
  **Settings of the pipeline** — how long it waits after an edit, and the keys that the
  two texts are stored under.

  Settings are read from a JSON document in which every field may be left out or null,
  and no other field may occur.  What is given is checked afterwards, in a fixed order,
  so that of several offences always the same one is reported.
-/
import GrammarLint.Diagnostic.Basic
import GrammarLint.Json.Record
import GrammarLint.Text.Blank

namespace GrammarLint

open Text

/-- How long to wait, in milliseconds, and where the texts are stored. -/
structure Settings where
  debounceMs : Nat
  grammarKey : String
  codeKey : String
deriving DecidableEq, Repr

namespace Settings

/-- The settings that hold unless others are given. -/
def standard : Settings := ⟨750, "grammarText", "codeText"⟩

/-- The key that the text of a stage is stored under. -/
def key (s : Settings) : Stage → String
  | .grammar => s.grammarKey
  | .code => s.codeKey

/-! ### Reading -/

/-- The fields of a settings document. -/
inductive Field where
  | debounceMs
  | grammarKey
  | codeKey
deriving DecidableEq

def Field.Content : Field → Type
  | .debounceMs => Option Nat
  | .grammarKey => Option String
  | .codeKey => Option String

def Field.name : Field → String
  | .debounceMs => "debounceMs"
  | .grammarKey => "grammarKey"
  | .codeKey => "codeKey"

def Field.ofStage : Stage → Field
  | .grammar => .grammarKey
  | .code => .codeKey

/-- How settings are written: closed, and in an array complete. -/
def record : Json.Record Field Field.Content where
  title := "struct RawConfig"
  fields := [.debounceMs, .grammarKey, .codeKey]
  complete := by intro i; cases i <;> simp
  key := Field.name
  read
    | .debounceMs => Json.nullable Json.uint64
    | .grammarKey => Json.nullable Json.string
    | .codeKey => Json.nullable Json.string
  absentMember
    | .debounceMs => some (none : Option Nat)
    | .grammarKey => some (none : Option String)
    | .codeKey => some (none : Option String)
  absentElement _ := none
  closed := true

/-- Settings as they are given. -/
structure Given where
  debounceMs : Option Nat
  grammarKey : Option String
  codeKey : Option String
deriving DecidableEq, Repr

def Given.reader : Json.Reader Given :=
  record.reader.map fun v => ⟨v .debounceMs, v .grammarKey, v .codeKey⟩

/-! ### Checking -/

/-- What is wrong with settings that can be read. -/
inductive Rejection where
  | zeroDebounce
  | blankKey (stage : Stage)
  /-- Both texts would be stored under one key. -/
  | sameKey (key : String)
deriving DecidableEq, Repr

namespace Rejection

def field : Rejection → Field
  | .zeroDebounce => .debounceMs
  | .blankKey stage => .ofStage stage
  | .sameKey _ => .codeKey

def reason : Rejection → String
  | .zeroDebounce => "must be > 0"
  | .blankKey _ => "must not be empty"
  | .sameKey key => "must differ from grammarKey ('" ++ key ++ "')"

end Rejection

/-- Why settings are refused. -/
inductive Offence where
  | malformed (defect : Json.Defect)
  /-- What it says is not allowed. -/
  | rejected (rejection : Rejection)
deriving DecidableEq, Repr

namespace Offence

def message : Offence → String
  | .malformed defect => "invalid config JSON: " ++ defect.message
  | .rejected r => "invalid " ++ r.field.name ++ ": " ++ r.reason

def sources : Offence → List String
  | .malformed defect => [defect.message]
  | .rejected _ => []

end Offence

/-- The key of a stage: the given one, unless it is blank, or the standard one. -/
def chosenKey (stage : Stage) (given : Option String) : Except Rejection String :=
  match given with
  | none => .ok (standard.key stage)
  | some key => if isBlankText key then .error (.blankKey stage) else .ok key

/-- Checks settings and fills in the standard ones. -/
def check (g : Given) : Except Rejection Settings := do
  if g.debounceMs = some 0 then throw .zeroDebounce
  let grammarKey ← chosenKey .grammar g.grammarKey
  let codeKey ← chosenKey .code g.codeKey
  if grammarKey = codeKey then throw (.sameKey grammarKey)
  return ⟨g.debounceMs.getD standard.debounceMs, grammarKey, codeKey⟩

def load (text : String) : Except Offence Settings :=
  match Json.parse Given.reader text with
  | .error defect => .error (.malformed defect)
  | .ok given => (check given).mapError .rejected

end Settings

end GrammarLint
