/-
  GrammarLint/Proofs/Report/Pretty.lean
  =====================================
  **What a person is told is what a program is told** — the two reports of one cycle.

  The report of a cycle is in the words of `Worded`, which goes by what the program is told.
  So what is asked of it can be read off the words.  The remark that there is nothing to
  analyze is no other line of a report, and what goes to the standard output are the trees,
  each behind a line of its own.
-/
import GrammarLint.Proofs.Pipeline.Forgetting
import GrammarLint.Proofs.Report.Wording
import GrammarLint.Session.Lint

namespace GrammarLint

/-! ### The end of a cycle -/

namespace Controller

/-- **Behind a cycle** the display fits its outcome. -/
theorem fits_of_ending {σ : Type} (services : Services (StateM σ)) (settings : Settings)
    (ops : List Operation) (s : σ) {outcome : Outcome}
    (hending : (history services settings ops s).ending = some outcome) :
    outcome.Fits (history services settings ops s).current.display := by
  obtain ⟨before, op, answer, outside, rfl, hruns, hh⟩ :=
    cycle_of_ending services settings ops s hending
  rw [hh, ending_extend] at hending
  rw [hh]
  obtain ⟨hcycle, hdisplay⟩ := (display_react _ answer op).1 hruns
  rw [hending, Option.some.injEq] at hcycle
  rw [hcycle]
  exact hdisplay ▸ fits_replacing _ answer

end Controller

/-! ### The standard output -/

/-- What is written behind a text is at the beginning of a line. -/
def BeginsLine (before : String) : Prop := ∀ c ∈ before.toList.getLast?, c = '\n'

theorem beginsLine_append {before t : String} (h : BeginsLine before) :
    BeginsLine (before ++ (t ++ missingEnd t)) := by
  by_cases hempty : t = ""
  · simpa [hempty, missingEnd] using h
  · have hne : t.toList ≠ [] := by simpa using hempty
    by_cases hend : t.toList.getLast? = some '\n'
    · simp [BeginsLine, missingEnd, hend]
    · simp [BeginsLine, missingEnd, hempty, hend]

namespace Stream

theorem contents_append (s : Stream) (k l : List Chunk) :
    s.contents (k ++ l) = s.contents k ++ s.contents l := by
  rw [contents, List.filter_append, List.map_append, String.join_append]
  rfl

/-- What goes to the standard error output only. -/
theorem out_contents_eq_empty {chunks : List Chunk} (h : ∀ chunk ∈ chunks, chunk.stream = .err) :
    out.contents chunks = "" := by
  have hnone : chunks.filter (·.stream == out) = [] := by
    rw [List.filter_eq_nil_iff]
    intro chunk hchunk
    rw [h chunk hchunk]
    decide
  rw [contents, hnone]
  rfl

end Stream

theorem exists_drawn {source : Source} {stage : Stage} {ds : List Diagnostic}
    {chunks : List Chunk} (h : List.Forall₂ (Drawn source stage) ds chunks) {chunk : Chunk}
    (hchunk : chunk ∈ chunks) : ∃ d, Drawn source stage d chunk := by
  induction h with
  | nil => cases hchunk
  | @cons d _ _ _ hd _ ih =>
    rcases List.mem_cons.mp hchunk with rfl | hlater
    · exact ⟨d, hd⟩
    · exact ih hlater

namespace CycleReport

variable {told : CycleReport} {sources : Stage → Source} {outcome : Outcome} {chunks : List Chunk}

/-- A summary is one line, or there is none. -/
theorem Summed.eq_of_mem {summary : List Chunk} (h : told.Summed summary) {chunk : Chunk}
    (hchunk : chunk ∈ summary) : ∃ text, chunk = ⟨.err, inRed text ++ "\n"⟩ := by
  by_cases hfound : ∃ stage, told.listed stage ≠ []
  · obtain ⟨stage, hlisted⟩ := hfound
    rw [(h.found stage hlisted).2] at hchunk
    exact ⟨_, List.mem_singleton.mp hchunk⟩
  · rw [h.silent fun stage => by_contra fun hlisted => hfound ⟨stage, hlisted⟩] at hchunk
    cases hchunk

theorem eq_of_mem_badge {stage : Stage} {chunk : Chunk} (h : chunk ∈ told.badge stage) :
    ∃ text, chunk = ⟨.err, stage.word ++ ": " ++ text ++ "\n"⟩ := by
  rw [badge] at h
  split at h
  · cases h
  · exact ⟨_, List.mem_singleton.mp h⟩

variable (told) in
/-- What goes to the standard output: both trees, each behind a line of its own, if both
    stages are valid, and nothing else. -/
structure Piped (out : String) : Prop where
  drawn : told.status .grammar = "valid" ∧ told.status .code = "valid" → ∃ first second,
    out = first ++ second ∧
      first = "── AST ──\n" ++ (told.display.ast ++ missingEnd told.display.ast) ∧
      BeginsLine first ∧
      second = "── AST (optimized) ──\n" ++
        (told.display.astOptimized ++ missingEnd told.display.astOptimized)
  silent : ¬ (told.status .grammar = "valid" ∧ told.status .code = "valid") → out = ""

theorem piped_panes : told.Piped (Stream.out.contents told.panes) := by
  constructor
  · intro hboth
    refine ⟨_, _, ?_, rfl, beginsLine_append (by simp [BeginsLine]), rfl⟩
    rw [panes, if_pos hboth]
    simp [Stream.contents]
  · intro hnot
    rw [panes, if_neg hnot]
    rfl

/-- The trees are all that goes to the standard output. -/
theorem Worded.piped (h : told.Worded sources .rendered chunks) :
    told.Piped (Stream.out.contents chunks) := by
  obtain _ | _ | @⟨grammar, code, summary, -, hgrammar, hcode, hsummary⟩ := h
  have hbadge : ∀ stage, Stream.out.contents (told.badge stage) = "" := by
    intro stage
    apply Stream.out_contents_eq_empty
    intro chunk hchunk
    obtain ⟨text, rfl⟩ := eq_of_mem_badge hchunk
    rfl
  have hdrawn : ∀ {stage ds drawings}, List.Forall₂ (Drawn (sources stage) stage) ds drawings →
      Stream.out.contents drawings = "" := by
    intro stage ds drawings hdrawings
    apply Stream.out_contents_eq_empty
    intro chunk hchunk
    obtain ⟨d, hd⟩ := exists_drawn hdrawings hchunk
    rw [hd.drawing]
  have hsummed : Stream.out.contents summary = "" := by
    apply Stream.out_contents_eq_empty
    intro chunk hchunk
    obtain ⟨text, rfl⟩ := hsummary.eq_of_mem hchunk
    rfl
  simp only [Stream.contents_append, hbadge, hdrawn hgrammar, hdrawn hcode, hsummed,
    String.empty_append, String.append_empty]
  exact piped_panes

theorem Piped.beginsLine {out : String} (h : told.Piped out) : BeginsLine out := by
  by_cases hboth : told.status .grammar = "valid" ∧ told.status .code = "valid"
  · obtain ⟨first, second, rfl, -, -, rfl⟩ := h.drawn hboth
    rw [← String.append_assoc]
    apply beginsLine_append
    simp [BeginsLine]
  · rw [h.silent hboth]
    nofun

/-- Only for a result there is something for the standard output. -/
theorem Worded.silent (h : told.Worded sources outcome chunks) (hnot : outcome ≠ .rendered) :
    Stream.out.contents chunks = "" := by
  cases h with
  | failed htext => rfl
  | empty => rfl
  | rendered => exact absurd rfl hnot

theorem Worded.beginsLine (h : told.Worded sources outcome chunks) :
    BeginsLine (Stream.out.contents chunks) := by
  by_cases hrendered : outcome = .rendered
  · subst hrendered
    exact h.piped.beginsLine
  · rw [h.silent hrendered]
    nofun

/-! ### The remark -/

theorem head?_inRed (t rest : String) : (inRed t ++ rest).toList.head? = some '\x1b' := by
  simp [inRed]

theorem ne_remark_of_head? {chunk : Chunk} {c : Char} (h : chunk.text.toList.head? = some c)
    (hc : c ≠ 'g') : chunk ≠ remark := by
  rintro rfl
  exact hc (Option.some.inj h).symm

theorem remark_not_mem_badge (stage : Stage) : remark ∉ told.badge stage := by
  intro hmem
  obtain ⟨text, hremark⟩ := eq_of_mem_badge hmem
  have hlist := congrArg (·.text.toList) hremark
  cases stage with
  | grammar =>
    -- It begins with the same word, and goes on with a colon.
    have hcolon := congrArg (·[7]?) hlist
    simp [remark, Stage.word] at hcolon
  | code =>
    have hfirst := congrArg (·[0]?) hlist
    simp [remark, Stage.word] at hfirst

theorem remark_not_mem_drawn {source : Source} {stage : Stage} {ds : List Diagnostic}
    {drawings : List Chunk} (h : List.Forall₂ (Drawn source stage) ds drawings) :
    remark ∉ drawings := by
  intro hmem
  obtain ⟨d, hd⟩ := exists_drawn h hmem
  obtain ⟨rest, hrest⟩ := hd.message
  exact ne_remark_of_head? (hrest ▸ head?_inRed "Error:" _) (by decide) rfl

theorem remark_not_mem_panes : remark ∉ told.panes := by
  intro hmem
  rw [panes] at hmem
  split at hmem
  · simp [remark] at hmem
  · cases hmem

theorem Summed.remark_not_mem {summary : List Chunk} (h : told.Summed summary) :
    remark ∉ summary := by
  intro hmem
  obtain ⟨text, hremark⟩ := h.eq_of_mem hmem
  have hne : (⟨.err, inRed text ++ "\n"⟩ : Chunk) ≠ remark :=
    ne_remark_of_head? (head?_inRed text "\n") (by decide)
  exact hne hremark.symm

/-- No other line of a report reads like the remark. -/
theorem Worded.remark_mem_iff (h : told.Worded sources outcome chunks) :
    remark ∈ chunks ↔ outcome = .empty := by
  cases h with
  | empty => exact iff_of_true (List.mem_singleton.mpr rfl) rfl
  | @failed e text htext =>
    refine iff_of_false ?_ nofun
    rw [List.mem_singleton]
    exact (ne_remark_of_head? (c := 'e') (by simp) (by decide)).symm
  | rendered _ hgrammar hcode hsummary =>
    refine iff_of_false ?_ nofun
    simp only [List.mem_append, remark_not_mem_badge, remark_not_mem_drawn hgrammar,
      remark_not_mem_drawn hcode, remark_not_mem_panes, hsummary.remark_not_mem, or_self,
      not_false_eq_true]

/-- With the remark there is nothing else. -/
theorem Worded.eq_remark (h : told.Worded sources outcome chunks) (hmem : remark ∈ chunks) :
    chunks = [remark] := by
  obtain rfl := h.remark_mem_iff.mp hmem
  cases h
  rfl

theorem Worded.failed_eq {e : AnalysisError} (h : told.Worded sources (.failed e) chunks) :
    ∃ text, told.error = some text ∧ chunks = [⟨.err, "error: " ++ text ++ "\n"⟩] := by
  cases h with
  | failed htext => exact ⟨_, htext, rfl⟩

/-- Linting ends with status 1 for a result with findings, which are listed. -/
theorem lintStatus_eq_one_iff (told : CycleReport) :
    Session.lintStatus .rendered told.display = 1 ↔ ∃ stage, told.listed stage ≠ [] := by
  have hfindings : told.display.hasFindings = true ↔ ∃ stage, told.listed stage ≠ [] := by
    rw [Display.hasFindings, List.any_eq_true]
    simp only [findings_eq_listed]
    constructor
    · rintro ⟨stage, -, hfound⟩
      exact ⟨stage, by simpa using hfound⟩
    · rintro ⟨stage, hfound⟩
      exact ⟨stage, by cases stage <;> simp [Stage.all], by simpa using hfound⟩
  rw [← hfindings]
  simp [Session.lintStatus]

end CycleReport

/-! ### The law -/

namespace Controller

variable {σ : Type} (services : Services (StateM σ))

/-- **The two reports of a cycle agree.**  For all services, settings and operations of which
    the last one ran a cycle: a program is told one line, from which everything that it says
    can be read, and this is the number of the cycle, how it ended, and what is shown.

    A person is told the same in words, with the findings drawn in the two texts: of a
    failure the one line of its error; that there is nothing to analyze exactly if the cycle
    had no grammar, and nothing else then; and of a result, stage by stage, a badge unless
    the status is empty, and each of the findings that are listed, in the same order; both
    trees if both statuses are valid; and a summary of the one stage in which something was
    found, with the number of its findings, if linting ends with status 1.  The trees go to
    the standard output, each behind its title, which begins a line, and nothing else goes
    there. -/
theorem pretty_tells_json (settings : Settings) (ops : List Operation) (s : σ)
    (names : Stage → String) {outcome : Outcome}
    (hending : (history services settings ops s).ending = some outcome) :
    let c := (history services settings ops s).current
    let pretty := report .pretty names c outcome
    ∃ (told : CycleReport) (line : String) (sources : Stage → Source),
      report .json names c outcome = [⟨.out, line ++ "\n"⟩] ∧
      Json.parse CycleReport.reader line = .ok told ∧
      Tells c.cycles c.display outcome told ∧
      (∀ stage, (sources stage).Shows (names stage) (c.buffer stage).text) ∧
      told.Worded sources outcome pretty ∧
      (∀ e, outcome = .failed e → pretty = [⟨.err, "error: " ++ e.message ++ "\n"⟩]) ∧
      (remark ∈ pretty ↔ outcome = .empty) ∧
      (remark ∈ pretty → pretty = [remark]) ∧
      (outcome = .rendered → told.Piped (Stream.out.contents pretty) ∧
        (Session.lintStatus outcome c.display = 1 ↔ ∃ stage, told.listed stage ≠ [])) ∧
      (outcome ≠ .rendered → Stream.out.contents pretty = "") ∧
      BeginsLine (Stream.out.contents pretty) := by
  intro c pretty
  have hfits : outcome.Fits c.display := fits_of_ending services settings ops s hending
  have htells := tells_of c.cycles outcome c.display
  generalize htold : CycleReport.of c.cycles outcome c.display = told at htells
  have hworded : told.Worded (fun stage => .of (names stage) (c.buffer stage).text) outcome
      pretty := by
    rw [show pretty = _ from report_pretty names c outcome]
    exact CycleReport.worded_items _ htells hfits
  refine ⟨told, String.ofList told.written, _, ?_, CycleReport.roundTrip.back told, htells,
    fun stage => Source.shows_of _ _, hworded, ?_, hworded.remark_mem_iff, hworded.eq_remark, ?_,
    hworded.silent, hworded.beginsLine⟩
  · rw [← htold]
    rfl
  · rintro e rfl
    obtain ⟨text, htext, hline⟩ := hworded.failed_eq
    rw [htells.error] at htext
    rw [hline, ← Option.some.inj htext]
  · rintro rfl
    rw [← htells.display]
    exact ⟨hworded.piped, told.lintStatus_eq_one_iff⟩

/-- A tree without a line feed at its end gets one, and one without a text gets none. -/
theorem pretty_tells_json_trees :
    let ops : List Operation := [.edit .grammar "a" 0, .runCycle]
    let h := history moody .standard ops 0
    h.ending = some .rendered ∧
      Stream.out.contents (report .pretty (fun _ => "in.txt") h.current .rendered) =
        "── AST ──\ntree\n── AST (optimized) ──\n" := by
  intro ops h
  have hending : h.ending = some .rendered := by decide +kernel
  have hdisplay : h.current.display = ⟨.valid, .valid, "tree", ""⟩ := by decide +kernel
  obtain ⟨told, -, -, -, -, htells, -, -, -, -, -, hrendered, -⟩ :=
    pretty_tells_json moody .standard ops 0 (fun _ => "in.txt") hending
  have htold : told.display = ⟨.valid, .valid, "tree", ""⟩ := htells.display.trans hdisplay
  have hvalid : told.status .grammar = "valid" ∧ told.status .code = "valid" := by
    simp [CycleReport.status, CycleReport.state, htold, StageState.status]
  obtain ⟨first, second, hout, hfirst, -, hsecond⟩ := (hrendered rfl).1.drawn hvalid
  refine ⟨hending, hout.trans ?_⟩
  rw [hfirst, hsecond, htold]
  decide +kernel

end Controller

end GrammarLint
