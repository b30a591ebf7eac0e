/-
  GrammarLint/Report/Cycle.lean
  =============================
  **The report of a cycle** — for a person as a list of items, for a program as one line
  of JSON.
-/
import GrammarLint.Report.Item

namespace GrammarLint

/-- For whom reports are made. -/
inductive Format where
  /-- For a person at a terminal. -/
  | pretty
  /-- For a program. -/
  | json
deriving DecidableEq, Repr

namespace Format

def name : Format → String
  | .pretty => "pretty"
  | .json => "json"

def all : List Format := [.pretty, .json]

def ofName? (name : String) : Option Format := all.find? fun f => f.name == name

end Format

/-- What a program is told about a cycle. -/
structure CycleReport where
  cycle : Nat
  outcome : String
  error : Option String
  display : Display
deriving DecidableEq, Repr

namespace CycleReport

def of (cycle : Nat) (outcome : Outcome) (d : Display) : CycleReport :=
  ⟨cycle, outcome.label, outcome.error?.map (·.message), d⟩

/-- Without an error there is no member for it. -/
def members (r : CycleReport) : List (String × List Char) :=
  [("cycle", Json.digits r.cycle), ("outcome", Json.literal r.outcome)] ++
    r.error.toList.map (fun text => ("error", Json.literal text)) ++
    [("state", r.display.written)]

/-- A report without the end of its line. -/
def written (r : CycleReport) : List Char := Json.object r.members

end CycleReport

/-- The report of the cycle that a pipeline has just ended; `names` are those of the two
    files. -/
def report (format : Format) (names : Stage → String) (c : Controller) (outcome : Outcome) :
    List Chunk :=
  match format with
  | .json => [⟨.out, String.ofList (CycleReport.of c.cycles outcome c.display).written ++ "\n"⟩]
  | .pretty =>
    let grammar := Source.of (names .grammar) c.grammar.text
    let code := Source.of (names .code) c.code.text
    let sources : Stage → Source
      | .grammar => grammar
      | .code => code
    (Item.ofCycle outcome c.display).map (Item.chunk sources)

end GrammarLint
