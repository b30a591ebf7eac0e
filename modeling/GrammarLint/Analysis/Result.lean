/-
  GrammarLint/Analysis/Result.lean
  ================================
  **What an analyzer answers** — its findings about the two texts and the trees it
  built, how they are read from its response, and what can go wrong with a call.

  The response is one JSON document.  It names the findings of both stages always; the
  two trees may be left out and are empty then.
-/
import GrammarLint.Diagnostic.Wire

namespace GrammarLint

/-! ### Results -/

/-- What an analyzer found.  The findings about the code and the two trees mean something
    only if there are no findings about the grammar. -/
structure AnalysisResult where
  grammar : List Diagnostic
  code : List Diagnostic
  ast : String
  astOptimized : String
deriving DecidableEq, Repr

namespace AnalysisResult

/-- The fields of a result. -/
inductive Field where
  | grammar
  | code
  | ast
  | astOptimized
deriving DecidableEq

def Field.Content : Field → Type
  | .grammar => List Diagnostic
  | .code => List Diagnostic
  | .ast => String
  | .astOptimized => String

/-- What a field is taken as when it is left out: a tree is empty then. -/
def Field.fallback : (f : Field) → Option f.Content
  | .grammar => none
  | .code => none
  | .ast => some ""
  | .astOptimized => some ""

def record : Json.Record Field Field.Content where
  title := "struct AnalysisResult"
  fields := [.grammar, .code, .ast, .astOptimized]
  complete := by intro i; cases i <;> simp
  key
    | .grammar => "grammar"
    | .code => "code"
    | .ast => "ast"
    | .astOptimized => "astOptimized"
  read
    | .grammar => Json.list Diagnostic.reader
    | .code => Json.list Diagnostic.reader
    | .ast => Json.string
    | .astOptimized => Json.string
  absentMember := Field.fallback
  absentElement := Field.fallback
  closed := false

def reader : Json.Reader AnalysisResult :=
  record.reader.map fun v => ⟨v .grammar, v .code, v .ast, v .astOptimized⟩

def written (r : AnalysisResult) : List Char :=
  Json.object [
    ("grammar", Json.array (r.grammar.map Diagnostic.written)),
    ("code", Json.array (r.code.map Diagnostic.written)),
    ("ast", Json.literal r.ast),
    ("astOptimized", Json.literal r.astOptimized)]

def decode (raw : String) : Except Json.Defect AnalysisResult :=
  Json.parse reader raw

end AnalysisResult

/-! ### Failures -/

/-- An analyzer that gave no response: what is said about it, and the cause behind it. -/
structure AnalyzerError where
  message : String
  cause : Option String
deriving DecidableEq, Repr

/-- Why an analysis has no result. -/
inductive AnalysisError where
  /-- The response is not what it should be. -/
  | malformed (defect : Json.Defect)
  | analyzer (error : AnalyzerError)
deriving DecidableEq, Repr

namespace AnalysisError

def message : AnalysisError → String
  | .malformed defect => "malformed analyzer response: " ++ defect.message
  | .analyzer error => "analyzer failed: " ++ error.message

/-- The causes behind a failure, outermost first. -/
def sources : AnalysisError → List String
  | .malformed defect => [defect.message]
  | .analyzer error => error.message :: error.cause.toList

end AnalysisError

/-- The outcome of a call from what the analyzer answered. -/
def interpret (answer : Except AnalyzerError String) : Except AnalysisError AnalysisResult :=
  match answer with
  | .error e => .error (.analyzer e)
  | .ok raw => (AnalysisResult.decode raw).mapError .malformed

end GrammarLint
