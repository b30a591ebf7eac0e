/-
  GrammarLint/Display/State.lean
  ==============================
  **What is shown for an analysis** — the state of each stage and the two trees.

  Findings about the grammar hide everything behind it: the code stage and the trees
  are shown only for a valid grammar, and the trees only for valid code.
-/
import GrammarLint.Analysis.Result

namespace GrammarLint

/-- What is shown for one stage: nothing, that it passed, or what was found. -/
inductive StageState where
  | empty
  | valid
  | invalid (findings : List Diagnostic)
deriving DecidableEq, Repr

namespace StageState

def badge : StageState → Option String
  | .empty => none
  | .valid => some "Valid"
  | .invalid _ => some "Invalid"

/-- The findings that are listed for a stage. -/
def findings : StageState → List Diagnostic
  | .invalid ds => ds
  | _ => []

/-- The state of a stage that was analyzed. -/
def ofFindings (ds : List Diagnostic) : StageState :=
  if ds.isEmpty then .valid else .invalid ds

def written : StageState → List Char
  | .empty => Json.object [("status", Json.literal "empty")]
  | .valid => Json.object [("status", Json.literal "valid")]
  | .invalid ds =>
    Json.object [("status", Json.literal "invalid"),
      ("diagnostics", Json.array (ds.map Diagnostic.written))]

end StageState

/-- Everything that is shown after an analysis. -/
structure Display where
  grammar : StageState
  code : StageState
  ast : String
  astOptimized : String
deriving DecidableEq, Repr

namespace Display

def cleared : Display := ⟨.empty, .empty, "", ""⟩

def stage (d : Display) : Stage → StageState
  | .grammar => d.grammar
  | .code => d.code

def isCleared (d : Display) : Bool := d == cleared

/-- Whether findings are shown for any stage. -/
def hasFindings (d : Display) : Bool :=
  Stage.all.any fun s => !(d.stage s).findings.isEmpty

/-- What is shown for a result; without one, because the grammar was empty, nothing. -/
def render : Option AnalysisResult → Display
  | none => cleared
  | some r =>
    if r.grammar.isEmpty then
      let code := StageState.ofFindings r.code
      if code = .valid then ⟨.valid, code, r.ast, r.astOptimized⟩ else ⟨.valid, code, "", ""⟩
    else { cleared with grammar := .invalid r.grammar }

def written (d : Display) : List Char :=
  Json.object [("grammar", d.grammar.written), ("code", d.code.written),
    ("ast", Json.literal d.ast), ("astOptimized", Json.literal d.astOptimized)]

end Display

end GrammarLint
