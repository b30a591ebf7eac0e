/-
  GrammarLint/Proofs/Report/Wording.lean
  ======================================
  **What the report of a cycle says** — to a program and to a person, spelled out.

  A program is told a line, and `Tells` is what it says: the number of the cycle, how it
  ended, and what is shown.  A person is told the same in lines of their own, and `Worded`
  has each of them as it is read, with the colours of the terminal.  It goes by the statuses
  and the lists that the program is told and does not mention the items that a report is
  made of.  Only the drawing of a finding is left as it is, below the line with its message.

  The program makes the two reports by different tests: one looks at badges, at the list of
  findings and at the code stage, the other names what it has.  For any outcome with any
  display they would not agree.  What they have in common is that the outcome and the
  display come from the same cycle (`Outcome.Fits`): without a grammar all is cleared, and a
  result that was rendered shows something and has two stages that belong together.
-/
import GrammarLint.Proofs.Pipeline.TwoStage
import GrammarLint.Proofs.Report.Reading

namespace GrammarLint

/-! ### Outcomes and displays of one cycle -/

/-- A display that a cycle can leave behind with an outcome. -/
def Outcome.Fits : Outcome → Display → Prop
  | .empty, d => d = .cleared
  | .rendered, d => ∃ r, d = .render (some r)
  | .failed _, _ => True

namespace Controller

theorem fits_replacing (d : Display) (answer : Option (Except AnalysisError AnalysisResult)) :
    (outcomeOf answer).Fits (replacing d answer) := by
  rcases answer with _ | e | r
  · exact rfl
  · exact trivial
  · exact ⟨r, rfl⟩

theorem fits_cycled (c : Controller) (answer : Option (Except AnalysisError AnalysisResult)) :
    (c.cycled answer).1.Fits (c.cycled answer).2.display := by
  rw [cycled_outcome, cycled_display]
  exact fits_replacing c.display answer

end Controller

/-! ### Words -/

def Stage.word : Stage → String
  | .grammar => "grammar"
  | .code => "code"

theorem Stage.name_eq_word (stage : Stage) : stage.name = stage.word := by
  cases stage <;> rfl

def inRed (t : String) : String := "\x1b[31m" ++ t ++ "\x1b[0m"

def inGreen (t : String) : String := "\x1b[32m" ++ t ++ "\x1b[0m"

theorem styled_red (t : String) : Log.styled "31" t = inRed t := rfl

/-- The line feed that a text still needs. -/
def missingEnd (t : String) : String :=
  if t ≠ "" ∧ t.toList.getLast? ≠ some '\n' then "\n" else ""

theorem Item.endLine_eq (t : String) : endLine t = t ++ missingEnd t := by
  rw [endLine, missingEnd]
  by_cases hempty : t = ""
  · simp [hempty]
  · by_cases hend : t.toList.getLast? = some '\n'
    · simp [hend]
    · simp [hempty, hend]

/-- The line that says that there is nothing to analyze. -/
def remark : Chunk := ⟨.err, "grammar is empty; nothing to analyze\n"⟩

/-! ### What a program is told -/

/-- **What is told about a cycle** with a number, after which `d` is shown: how it ended, and
    why if it failed. -/
inductive Tells (number : Nat) (d : Display) : Outcome → CycleReport → Prop
  | empty : Tells number d .empty ⟨number, "empty", none, d⟩
  | rendered : Tells number d .rendered ⟨number, "rendered", none, d⟩
  | malformed (defect : Json.Defect) : Tells number d (.failed (.malformed defect))
    ⟨number, "failed", some ("malformed analyzer response: " ++ defect.message), d⟩
  | refused (error : AnalyzerError) : Tells number d (.failed (.analyzer error))
    ⟨number, "failed", some ("analyzer failed: " ++ error.message), d⟩

theorem tells_of (number : Nat) (outcome : Outcome) (d : Display) :
    Tells number d outcome (.of number outcome d) := by
  cases outcome with
  | empty => exact .empty
  | rendered => exact .rendered
  | failed e =>
    cases e with
    | malformed defect => exact .malformed defect
    | analyzer error => exact .refused error

namespace Tells

variable {number : Nat} {d : Display} {outcome : Outcome} {told : CycleReport}

theorem display (h : Tells number d outcome told) : told.display = d := by
  cases h <;> rfl

theorem error (h : Tells number d outcome told) : told.error = outcome.error?.map (·.message) := by
  cases h <;> rfl

end Tells

/-! ### What a person is told -/

/-- A source that findings in a named text are drawn in. -/
structure Source.Shows (source : Source) (name text : String) : Prop where
  called : source.name = name
  chars : source.chars = text.toList
  made : source = .of name text

theorem Source.shows_of (name text : String) : (Source.of name text).Shows name text :=
  ⟨rfl, rfl, rfl⟩

/-- The drawing of a finding, below its message. -/
structure Drawn (source : Source) (stage : Stage) (d : Diagnostic) (chunk : Chunk) : Prop where
  drawing : chunk = ⟨.err, source.snippet stage d⟩
  message : ∃ rest, chunk.text = inRed "Error:" ++ (" " ++ (d.message ++ ("\n" ++ rest)))

theorem drawn_snippet (source : Source) (stage : Stage) (d : Diagnostic) :
    Drawn source stage d ⟨.err, source.snippet stage d⟩ := by
  refine ⟨rfl, ?_⟩
  simp only [Source.snippet, Snippet.red, styled_red, String.append_assoc]
  split
  · exact ⟨"", by simp⟩
  · exact ⟨_, rfl⟩

namespace CycleReport

variable (told : CycleReport)

/-- What a program is told about a stage. -/
def state : Stage → StageState
  | .grammar => told.display.grammar
  | .code => told.display.code

theorem stage_eq_state (stage : Stage) : told.display.stage stage = told.state stage := by
  cases stage <;> rfl

def status (stage : Stage) : String := (told.state stage).status

def listed (stage : Stage) : List Diagnostic := (told.state stage).listed?.getD []

theorem findings_eq_listed (stage : Stage) :
    (told.display.stage stage).findings = told.listed stage := by
  rw [StageState.findings_eq, stage_eq_state]
  rfl

/-- A line for a stage that is not empty: whether it is valid. -/
def badge (stage : Stage) : List Chunk :=
  if told.status stage = "empty" then []
  else [⟨.err, stage.word ++ ": " ++
    (if told.status stage = "valid" then inGreen "Valid" else inRed "Invalid") ++ "\n"⟩]

/-- Both trees, each behind a title, if both stages are valid. -/
def panes : List Chunk :=
  if told.status .grammar = "valid" ∧ told.status .code = "valid" then
    [⟨.out, "── AST ──\n" ++ (told.display.ast ++ missingEnd told.display.ast)⟩,
      ⟨.out, "── AST (optimized) ──\n" ++
        (told.display.astOptimized ++ missingEnd told.display.astOptimized)⟩]
  else []

/-- Something was found in a stage and in no other one. -/
def OnlyFound (stage : Stage) : Prop := ∀ other, told.listed other ≠ [] ↔ other = stage

/-- How many errors there are in a stage. -/
def countWords (stage : Stage) (n : Nat) : String :=
  toString n ++ " " ++ stage.word ++ (if n = 1 then " error" else " errors")

/-- A line that names the one stage in which something was found, and how much, if there is
    such a stage. -/
structure Summed (summary : List Chunk) : Prop where
  found : ∀ stage, told.listed stage ≠ [] → told.OnlyFound stage ∧
    summary = [⟨.err, inRed (countWords stage (told.listed stage).length) ++ "\n"⟩]
  silent : (∀ stage, told.listed stage = []) → summary = []

/-- **What a person is told**, by what a program is told about the same cycle: a failure as
    the one line of its error, and that there is nothing to analyze.  For a result there is,
    first for the grammar and then for the code, a badge and the drawings of the findings that
    are listed, in their order; then the trees, and a summary. -/
inductive Worded (sources : Stage → Source) : Outcome → List Chunk → Prop
  | failed {e : AnalysisError} {text : String} (htext : told.error = some text) :
    Worded sources (.failed e) [⟨.err, "error: " ++ text ++ "\n"⟩]
  | empty : Worded sources .empty [remark]
  | rendered {grammar code summary : List Chunk} (hshown : told.status .grammar ≠ "empty")
    (hgrammar : List.Forall₂ (Drawn (sources .grammar) .grammar) (told.listed .grammar) grammar)
    (hcode : List.Forall₂ (Drawn (sources .code) .code) (told.listed .code) code)
    (hsummary : told.Summed summary) :
    Worded sources .rendered
      (told.badge .grammar ++ grammar ++ (told.badge .code ++ code) ++ told.panes ++ summary)

end CycleReport

/-- **The report of a cycle** on two texts with names: for a program one line that is read
    back as what is told, and for a person the same in words, over the two texts. -/
inductive Reports (names texts : String × String) (number : Nat) (outcome : Outcome)
    (d : Display) : Format → List Chunk → Prop
  | json {told : CycleReport} {line : List Char} (htells : Tells number d outcome told)
    (hline : Json.Printable line)
    (hread : Json.parse CycleReport.reader (String.ofList line) = .ok told) :
    Reports names texts number outcome d .json [⟨.out, String.ofList line ++ "\n"⟩]
  | pretty {told : CycleReport} {sources : Stage → Source} {chunks : List Chunk}
    (htells : Tells number d outcome told)
    (hgrammar : (sources .grammar).Shows names.1 texts.1)
    (hcode : (sources .code).Shows names.2 texts.2)
    (hworded : told.Worded sources outcome chunks) :
    Reports names texts number outcome d .pretty chunks

/-! ### The items of a report -/

namespace CycleReport

variable (told : CycleReport) (sources : Stage → Source)

/-- The drawings of what is listed for a stage. -/
def drawings (stage : Stage) : List Chunk :=
  (told.listed stage).map fun d => ⟨.err, (sources stage).snippet stage d⟩

theorem drawn_drawings (stage : Stage) :
    List.Forall₂ (Drawn (sources stage) stage) (told.listed stage)
      (told.drawings sources stage) := by
  rw [drawings, List.forall₂_map_right_iff, List.forall₂_same]
  intro d _
  exact drawn_snippet (sources stage) stage d

/-- The items of a stage are a badge and the drawings of its findings. -/
theorem ofStage_chunks (stage : Stage) :
    (Item.ofStage stage (told.display.stage stage)).map (Item.chunk sources) =
      told.badge stage ++ told.drawings sources stage := by
  rw [Item.ofStage, badge, drawings, status, listed, ← stage.name_eq_word, stage_eq_state]
  cases told.state stage with
  | empty => rfl
  | valid => rfl
  | invalid ds => simp [StageState.badge, StageState.findings, StageState.status,
      StageState.listed?, Item.chunk, Item.stream, Item.text, Item.badgeStyle, styled_red]

theorem trees_chunks (h : told.display.TwoStage) :
    (Item.trees told.display).map (Item.chunk sources) = told.panes := by
  have hgrammar := told.display.grammar.status_eq_valid_iff
  have hcode := told.display.code.status_eq_valid_iff
  have hboth : told.status .grammar = "valid" ∧ told.status .code = "valid" ↔
      told.display.code = .valid := by
    -- The items are chosen by the code stage alone, behind which the grammar stage is valid.
    constructor
    · rintro ⟨-, hvalid⟩
      exact hcode.mp hvalid
    · intro hvalid
      have hshown : told.display.code ≠ .empty := by simp [hvalid]
      exact ⟨hgrammar.mpr (h.code_after_grammar.mp hshown), hcode.mpr hvalid⟩
  simp only [Item.trees, panes, hboth]
  split
  · simp [Item.chunk, Item.stream, Item.text, Item.endLine_eq]
  · rfl

theorem onlyFound_of_listed (h : told.display.TwoStage) {stage : Stage}
    (hfound : told.listed stage ≠ []) : told.OnlyFound stage := by
  intro other
  constructor
  · -- Findings in the grammar keep the code stage empty.
    intro hother
    rw [← findings_eq_listed, Display.findings_stage] at hfound hother
    exact h.lists_one hother hfound
  · rintro rfl
    exact hfound

theorem counts_of_onlyFound {stage : Stage} (h : told.OnlyFound stage) :
    Item.counts told.display = [(stage, (told.listed stage).length)] := by
  have hpos : 0 < (told.listed stage).length := List.length_pos_iff.mpr ((h stage).mpr rfl)
  have hother : told.listed stage.other = [] := by
    by_contra hother
    have heq := (h stage.other).mp hother
    cases stage <;> cases heq
  simp only [← findings_eq_listed] at hpos hother ⊢
  cases stage with
  | grammar =>
    simp only [Stage.other] at hother
    simp [Item.counts, Stage.all, hother, hpos]
  | code =>
    simp only [Stage.other] at hother
    simp [Item.counts, Stage.all, hother, hpos]

theorem countText_eq (stage : Stage) (n : Nat) : Item.countText stage n = countWords stage n := by
  rw [Item.countText, countWords, stage.name_eq_word]
  split <;> simp [String.append_assoc]

theorem summed_counts (h : told.display.TwoStage) :
    told.Summed ((if (Item.counts told.display).isEmpty then []
      else [Item.summary (Item.counts told.display)]).map (Item.chunk sources)) := by
  constructor
  case found =>
    intro stage hlisted
    have honly := told.onlyFound_of_listed h hlisted
    rw [told.counts_of_onlyFound honly]
    refine ⟨honly, ?_⟩
    simp [Item.chunk, Item.stream, Item.text, styled_red, countText_eq]
  case silent =>
    intro hnone
    have hcounts : Item.counts told.display = [] := by
      simp only [← findings_eq_listed] at hnone
      simp [Item.counts, Stage.all, hnone]
    rw [hcounts]
    rfl

variable {told}

/-- **The items of a report say what they should**, if the display fits the outcome. -/
theorem worded_items {number : Nat} {d : Display} {outcome : Outcome}
    (htells : Tells number d outcome told) (hfits : outcome.Fits d) :
    told.Worded sources outcome ((Item.ofCycle outcome d).map (Item.chunk sources)) := by
  have herror := htells.error
  obtain rfl := htells.display
  cases outcome with
  | failed e => exact .failed herror
  | empty =>
    have hcleared : told.display = .cleared := hfits
    rw [hcleared]
    exact .empty
  | rendered =>
    obtain ⟨r, hrender⟩ := hfits
    have htwo : told.display.TwoStage := hrender ▸ Display.twoStage_render r
    have hcleared : told.display.isCleared = false := hrender ▸ Display.isCleared_render r
    have hshown : told.status .grammar ≠ "empty" := by
      intro hempty
      rw [htwo.cleared.mp (told.display.grammar.status_eq_empty_iff.mp hempty)] at hcleared
      cases hcleared
    have hitems : (Item.ofCycle .rendered told.display).map (Item.chunk sources) =
        told.badge .grammar ++ told.drawings sources .grammar ++
          (told.badge .code ++ told.drawings sources .code) ++ told.panes ++
          (if (Item.counts told.display).isEmpty then []
            else [Item.summary (Item.counts told.display)]).map (Item.chunk sources) := by
      simp only [Item.ofCycle, Item.ofDisplay, hcleared, Bool.false_eq_true, if_false, Stage.all,
        List.flatMap_cons, List.flatMap_nil, List.append_nil, List.map_append,
        told.ofStage_chunks, told.trees_chunks sources htwo]
    rw [hitems]
    exact .rendered hshown (told.drawn_drawings sources .grammar)
      (told.drawn_drawings sources .code) (told.summed_counts sources htwo)

end CycleReport

theorem report_pretty (names : Stage → String) (c : Controller) (outcome : Outcome) :
    report .pretty names c outcome = (Item.ofCycle outcome c.display).map
      (Item.chunk fun stage => .of (names stage) (c.buffer stage).text) := by
  rw [report]
  congr 2
  funext stage
  cases stage <;> rfl

/-- **What is reported is the report of the cycle**, for a program and for a person. -/
theorem reports_report (format : Format) (names : Stage → String) {c : Controller}
    {outcome : Outcome} (hfits : outcome.Fits c.display) :
    Reports (names .grammar, names .code) (c.grammar.text, c.code.text) c.cycles outcome c.display
      format (report format names c outcome) := by
  have htells := tells_of c.cycles outcome c.display
  cases format with
  | json =>
    exact .json htells (CycleReport.printable_written _) (CycleReport.roundTrip.back _)
  | pretty =>
    rw [report_pretty]
    exact .pretty htells (Source.shows_of _ _) (Source.shows_of _ _)
      (CycleReport.worded_items _ htells hfits)

end GrammarLint
