/-
  GrammarLint/Report/Item.lean
  ============================
  **What a person is told about a cycle** — the items of a report, in order, and their
  texts.

  A failed cycle is told by its failure alone, and one without a grammar by a remark.
  Otherwise there is a badge for each stage that was analyzed, followed by what was found
  in it; the trees, if the code is valid; and how many findings there are.  The trees are
  the result and go to the standard output, all else goes to the standard error output.
-/
import GrammarLint.Pipeline.Controller
import GrammarLint.Report.Snippet
import GrammarLint.Report.Stream

namespace GrammarLint

/-- One item of a report. -/
inductive Item where
  | failure (error : AnalysisError)
  | nothing
  /-- How a stage stands. -/
  | badge (stage : Stage) (state : StageState)
  | finding (stage : Stage) (diagnostic : Diagnostic)
  | tree (title text : String)
  /-- How much was found in the stages in which something was found. -/
  | summary (counts : List (Stage × Nat))
deriving DecidableEq, Repr

namespace Item

/-! ### Which items there are -/

def ofStage (stage : Stage) (state : StageState) : List Item :=
  (if state.badge.isSome then [.badge stage state] else []) ++ state.findings.map (.finding stage)

def trees (d : Display) : List Item :=
  if d.code = .valid then [.tree "AST" d.ast, .tree "AST (optimized)" d.astOptimized] else []

def counts (d : Display) : List (Stage × Nat) :=
  (Stage.all.map fun s => (s, (d.stage s).findings.length)).filter fun c => 0 < c.2

def ofDisplay (d : Display) : List Item :=
  if d.isCleared then [.nothing]
  else
    Stage.all.flatMap (fun s => ofStage s (d.stage s)) ++ trees d ++
      (if (counts d).isEmpty then [] else [.summary (counts d)])

def ofCycle (outcome : Outcome) (d : Display) : List Item :=
  match outcome with
  | .failed e => [.failure e]
  | _ => ofDisplay d

/-! ### What they say -/

def stream : Item → Stream
  | .tree _ _ => .out
  | _ => .err

def badgeStyle : StageState → String
  | .empty => "37"
  | .valid => "32"
  | .invalid _ => "31"

/-- A text with a line feed at its end, unless it is empty. -/
def endLine (s : String) : String :=
  if s.isEmpty || s.toList.getLast? = some '\n' then s else s ++ "\n"

def countText (stage : Stage) (n : Nat) : String :=
  toString n ++ " " ++ stage.name ++ " error" ++ (if n = 1 then "" else "s")

/-- The text of an item; `sources` are the two texts that were analyzed. -/
def text (sources : Stage → Source) : Item → String
  | .failure e => "error: " ++ e.message ++ "\n"
  | .nothing => "grammar is empty; nothing to analyze\n"
  | .badge stage state =>
    stage.name ++ ": " ++ Log.styled (badgeStyle state) (state.badge.getD "") ++ "\n"
  | .finding stage d => (sources stage).snippet stage d
  | .tree title text => "── " ++ title ++ " ──\n" ++ endLine text
  | .summary counts =>
    ", ".intercalate (counts.map fun (stage, n) => Log.styled "31" (countText stage n)) ++ "\n"

def chunk (sources : Stage → Source) (i : Item) : Chunk := ⟨i.stream, i.text sources⟩

end Item

end GrammarLint
