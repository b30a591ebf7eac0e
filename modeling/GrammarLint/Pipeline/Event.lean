/-
  GrammarLint/Pipeline/Event.lean
  ===============================
  **What the pipeline reports about its work** — its events, and how they are logged.
-/
import GrammarLint.Analysis.Result
import GrammarLint.Log.Record
import GrammarLint.Store.Error

namespace GrammarLint

/-- What happens in the pipeline. -/
inductive Event where
  /-- The first cycle begins, with texts of so many bytes. -/
  | starting (grammarBytes codeBytes : Nat)
  /-- An edit was made; `replaced` says that an earlier one was waiting. -/
  | scheduled (stage : Stage) (version : Nat) (replaced : Bool)
  | elapsed (stage : Stage) (version : Nat)
  | persistFailed (key : String) (error : StoreError)
  | analysisFailed (error : AnalysisError) (grammarVersion codeVersion : Nat)
  /-- A cycle is over; the badges are those that are shown now. -/
  | finished (cycle : Nat) (grammar code : Option String)
deriving DecidableEq, Repr

namespace Event

def badgeText : Option String → String
  | none => "None"
  | some badge => "Some(\"" ++ badge ++ "\")"

/-- The part of the program that these events come from. -/
def target : String := "peglint_core::controller"

def record : Event → Log.Record
  | .starting grammarBytes codeBytes =>
    ⟨.info, target, "starting lint pipeline",
      [("grammar_bytes", .number grammarBytes), ("code_bytes", .number codeBytes)]⟩
  | .scheduled stage version replaced =>
    ⟨.debug, target, "analysis scheduled",
      [("stage", .text stage.name), ("version", .number version), ("replaced", .flag replaced)]⟩
  | .elapsed stage version =>
    ⟨.debug, target, "debounce elapsed",
      [("stage", .text stage.name), ("version", .number version)]⟩
  | .persistFailed key error =>
    ⟨.warn, target, "failed to persist buffer",
      [("key", .text key), ("error", .text error.message)]⟩
  | .analysisFailed error grammarVersion codeVersion =>
    ⟨.warn, target, "analysis failed; keeping previous result",
      [("error", .text error.message), ("grammar_version", .number grammarVersion),
        ("code_version", .number codeVersion)]⟩
  | .finished cycle grammar code =>
    ⟨.debug, target, "cycle finished",
      [("cycle", .number cycle), ("grammar", .text (badgeText grammar)),
        ("code", .text (badgeText code))]⟩

end Event

end GrammarLint
