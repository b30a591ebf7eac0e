/-
  GrammarLint/Proofs/Report/Reading.lean
  ======================================
  **Reports are read back** — a program that reads a report has the number of the cycle,
  its outcome, its error if there was one, and everything that is shown.

  The program itself never reads its reports, so the readers are given here, as another
  program would have them.  They are put together from those of records.  Two members of
  what is written are there in some cases only, the findings of a stage and the error; what
  a reader makes of their absence is checked against the rest (`Reader.narrow`).
-/
import GrammarLint.Proofs.Analysis.RoundTrip
import GrammarLint.Proofs.Json.OneLine
import GrammarLint.Report.Cycle

namespace GrammarLint

open Json

namespace Json

variable {α β : Type}

/-! ### Readers that look closer -/

/-- A reader that goes on with a check of what was read. -/
def Reader.narrow (f : α → Except Fault β) (read : Reader α) : Reader β := fun s =>
  match read s with
  | .error e => .error e
  | .ok (x, s) =>
    match f x with
    | .error fault => .error (.before fault s)
    | .ok y => .ok (y, s)

theorem Reads.narrow {read : Reader α} {F : List Char → α → Prop} (h : Reads read F)
    (f : α → Except Fault β) : Reads (read.narrow f) fun w y => ∃ x, F w x ∧ f x = .ok y where
  begins := by
    rintro w y ⟨x, hx, -⟩
    exact h.begins hx
  sound := by
    intro s y rest hread
    unfold Reader.narrow at hread
    split at hread
    · cases hread
    · next x t hx =>
      split at hread
      · cases hread
      · next hf =>
        cases hread
        obtain ⟨a, w, hs, ha, hw⟩ := h.sound hx
        exact ⟨a, w, hs, ha, x, hw, hf⟩
  complete := by
    rintro a w y rest ha ⟨x, hx, hf⟩ hrest
    simp only [Reader.narrow, h.complete ha hx hrest, hf]

/-- Something that is there. -/
def Reader.given (read : Reader α) : Reader (Option α) := read.narrow (.ok ∘ some)

theorem Reads.given {read : Reader α} {F : List Char → α → Prop} (h : Reads read F) :
    Reads read.given fun w y => ∃ x, F w x ∧ y = some x := by
  refine (h.narrow _).congr ?_
  intro w y
  constructor
  · rintro ⟨x, hx, hy⟩
    cases hy
    exact ⟨x, hx, rfl⟩
  · rintro ⟨x, hx, rfl⟩
    exact ⟨x, hx, rfl⟩

/-! ### Numbers of any size -/

def numeral : Reader Numeral := fun s =>
  match skipBlanks s with
  | [] => .error (.atEnd .eofInValue)
  | c :: s =>
    if c = '-' ∨ c.isDigit then scanNumeral .eofInValue (c :: s)
    else .error (mismatch "a number" (c :: s))

theorem reads_numeral : Reads numeral NumberText where
  begins := NumberText.begins
  sound := by
    intro s u rest h
    unfold numeral at h
    split at h
    · cases h
    · next c t hs =>
      split at h
      · obtain ⟨a, ha, rfl⟩ := eq_of_skipBlanks hs
        obtain ⟨w, hw, hnumber⟩ := eq_of_scanNumeral h
        exact ⟨a, w, by rw [hw], ha, hnumber⟩
      · cases h
  complete := by
    intro a w u rest ha hw hrest
    have hblanks := hw.begins.skipBlanks ha rest
    have hscan := scanNumeral_append .eofInValue hw hrest
    obtain ⟨c, s, rfl, hc⟩ := hw.head
    rw [List.cons_append] at hblanks hscan
    simp only [numeral, List.cons_append, hblanks, if_pos hc, hscan]

/-- The integer without sign that a number is. -/
def Numeral.whole? (u : Numeral) : Except Fault Nat :=
  if u = ⟨false, u.whole, none, none⟩ then .ok (Nat.ofDigitChars 10 u.whole 0)
  else .error .invalidNumber

def wholeNumber : Reader Nat := numeral.narrow Numeral.whole?

theorem reads_wholeNumber : Reads wholeNumber NaturalText := by
  refine (reads_numeral.narrow _).congr ?_
  intro w n
  constructor
  · rintro ⟨u, hnumber, hwhole⟩
    unfold Numeral.whole? at hwhole
    split at hwhole
    · next hu =>
      cases hwhole
      obtain ⟨hsign, hwhole, hfraction, hexponent⟩ := hnumber
      cases hu
      cases hfraction
      cases hexponent
      rcases hsign with ⟨rfl, -⟩ | ⟨-, hminus⟩
      · rw [List.nil_append, List.append_nil, List.append_nil]
        exact ⟨hwhole, rfl⟩
      · cases hminus
    · cases hwhole
  · rintro ⟨hwhole, rfl⟩
    exact ⟨_, NaturalText.number ⟨hwhole, rfl⟩, by simp [Numeral.whole?]⟩

end Json

/-! ### What is shown for a stage -/

namespace StageState

def status : StageState → String
  | .empty => "empty"
  | .valid => "valid"
  | .invalid _ => "invalid"

def listed? : StageState → Option (List Diagnostic)
  | .invalid ds => some ds
  | _ => none

theorem status_eq_empty_iff (st : StageState) : st.status = "empty" ↔ st = .empty := by
  cases st <;> simp [status]

theorem status_eq_valid_iff (st : StageState) : st.status = "valid" ↔ st = .valid := by
  cases st <;> simp [status]

theorem findings_eq (st : StageState) : st.findings = st.listed?.getD [] := by
  cases st <;> rfl

/-- The state with a status, if the findings are listed exactly where there are some. -/
def ofStatus : String → Option (List Diagnostic) → Except Fault StageState
  | "empty", none => .ok .empty
  | "valid", none => .ok .valid
  | "invalid", some ds => .ok (.invalid ds)
  | "invalid", none => .error (.missingField "diagnostics")
  | "empty", some _ | "valid", some _ => .error (.unknownField "diagnostics" ["status"])
  | status, _ => .error (.unknownVariant status ["empty", "valid", "invalid"])

theorem ofStatus_status (s : StageState) : ofStatus s.status s.listed? = .ok s := by
  cases s <;> rfl

inductive Field where
  | status
  | listed
deriving DecidableEq

def Field.Content : Field → Type
  | .status => String
  | .listed => Option (List Diagnostic)

/-- Nothing has to be listed. -/
def Field.fallback : (f : Field) → Option f.Content
  | .status => none
  | .listed => some none

def record : Json.Record Field Field.Content where
  title := "the state of a stage"
  fields := [.status, .listed]
  complete := by intro i; cases i <;> simp
  key
    | .status => "status"
    | .listed => "diagnostics"
  read
    | .status => Json.string
    | .listed => (Json.list Diagnostic.reader).given
  absentMember := Field.fallback
  absentElement := Field.fallback
  closed := false

def reader : Json.Reader StageState :=
  record.reader.narrow fun v => ofStatus (v .status) (v .listed)

def Field.Format : (f : Field) → List Char → f.Content → Prop
  | .status => LiteralText
  | .listed => fun w (listed : Option (List Diagnostic)) =>
    ∃ ds, Bracketed '[' ']' DiagnosticText w ds ∧ listed = some ds

theorem key_injective : Function.Injective record.key := by
  intro f g
  cases f <;> cases g <;> simp [record]

/-- The texts of a stage. -/
def StageText (w : List Char) (s : StageState) : Prop :=
  ∃ v, record.Text Field.Format w v ∧ ofStatus (v .status) (v .listed) = .ok s

theorem reads_reader : Reads reader StageText := by
  have hread : ∀ f, Reads (record.read f) f.Format := by
    rintro (_ | _)
    · exact reads_string
    · exact Diagnostic.reads_reader.list.given
  exact (record.reads key_injective (by decide) hread).narrow _

def value (s : StageState) : (f : Field) → f.Content
  | .status => s.status
  | .listed => s.listed?

theorem text_written (s : StageState) : StageText s.written s := by
  refine ⟨s.value, ?_, s.ofStatus_status⟩
  have hothers : ∀ members : List (String × List Char),
      (∀ m ∈ members, m.1 = "status" ∨ m.1 = "diagnostics") → record.Others members := by
    intro members hkeys
    rw [record.others_iff rfl]
    intro m hm hother
    simp only [Record.keys, record, List.map_cons, List.map_nil, List.mem_cons,
      List.not_mem_nil, or_false] at hother
    exact absurd (hkeys m hm) hother
  cases s with
  | empty | valid =>
    refine Or.inl ⟨_, objectText_object _, ?_, hothers _ (by simp)⟩
    rintro (_ | _)
    · exact .once (literalText_literal _)
    · exact .never rfl
  | invalid ds =>
    refine Or.inl ⟨_, objectText_object _, ?_, hothers _ (by simp)⟩
    rintro (_ | _)
    · exact .once (literalText_literal _)
    · exact .once ⟨ds, bracketed_array fun d _ => d.text_written, rfl⟩

end StageState

/-! ### Everything that is shown -/

namespace Display

inductive Field where
  | grammar
  | code
  | ast
  | astOptimized
deriving DecidableEq

def Field.Content : Field → Type
  | .grammar => StageState
  | .code => StageState
  | .ast => String
  | .astOptimized => String

def record : Json.Record Field Field.Content where
  title := "a display"
  fields := [.grammar, .code, .ast, .astOptimized]
  complete := by intro i; cases i <;> simp
  key
    | .grammar => "grammar"
    | .code => "code"
    | .ast => "ast"
    | .astOptimized => "astOptimized"
  read
    | .grammar => StageState.reader
    | .code => StageState.reader
    | .ast => Json.string
    | .astOptimized => Json.string
  absentMember _ := none
  absentElement _ := none
  closed := false

def reader : Json.Reader Display :=
  record.reader.map fun v => ⟨v .grammar, v .code, v .ast, v .astOptimized⟩

def Field.Format : (f : Field) → List Char → f.Content → Prop
  | .grammar => StageState.StageText
  | .code => StageState.StageText
  | .ast => LiteralText
  | .astOptimized => LiteralText

theorem key_injective : Function.Injective record.key := by
  intro f g
  cases f <;> cases g <;> simp [record]

def value (d : Display) : (f : Field) → f.Content
  | .grammar => d.grammar
  | .code => d.code
  | .ast => d.ast
  | .astOptimized => d.astOptimized

theorem reads_reader : Reads reader fun w d => record.Text Field.Format w d.value := by
  have hread : ∀ f, Reads (record.read f) f.Format := by
    rintro (_ | _ | _ | _)
    · exact StageState.reads_reader
    · exact StageState.reads_reader
    · exact reads_string
    · exact reads_string
  have hvalue : ∀ w v, record.Text Field.Format w v →
      value ⟨v .grammar, v .code, v .ast, v .astOptimized⟩ = v := by
    intro w v _
    funext f
    cases f <;> rfl
  exact (record.reads key_injective (by decide) hread).map (fun _ => rfl) hvalue

theorem text_written (d : Display) : record.Text Field.Format d.written d.value := by
  refine Or.inl ⟨_, objectText_object _, ?_, (record.others_iff rfl).mpr ?_⟩
  · rintro (_ | _ | _ | _)
    · exact .once d.grammar.text_written
    · exact .once d.code.text_written
    · exact .once (literalText_literal _)
    · exact .once (literalText_literal _)
  · simp [record, Record.keys]

end Display

/-! ### Reports -/

namespace CycleReport

inductive Field where
  | cycle
  | outcome
  | error
  | display
deriving DecidableEq

def Field.Content : Field → Type
  | .cycle => Nat
  | .outcome => String
  | .error => Option String
  | .display => Display

/-- Only the error may be left out. -/
def Field.fallback : (f : Field) → Option f.Content
  | .error => some none
  | _ => none

def record : Json.Record Field Field.Content where
  title := "a report"
  fields := [.cycle, .outcome, .error, .display]
  complete := by intro i; cases i <;> simp
  key
    | .cycle => "cycle"
    | .outcome => "outcome"
    | .error => "error"
    | .display => "state"
  read
    | .cycle => Json.wholeNumber
    | .outcome => Json.string
    | .error => Json.string.given
    | .display => Display.reader
  absentMember := Field.fallback
  absentElement := Field.fallback
  closed := false

def reader : Json.Reader CycleReport :=
  record.reader.map fun v => ⟨v .cycle, v .outcome, v .error, v .display⟩

def Field.Format : (f : Field) → List Char → f.Content → Prop
  | .cycle => NaturalText
  | .outcome => LiteralText
  | .error => fun w (error : Option String) => ∃ text, LiteralText w text ∧ error = some text
  | .display => fun w (d : Display) => Display.record.Text Display.Field.Format w d.value

theorem key_injective : Function.Injective record.key := by
  intro f g
  cases f <;> cases g <;> simp [record]

def value (r : CycleReport) : (f : Field) → f.Content
  | .cycle => r.cycle
  | .outcome => r.outcome
  | .error => r.error
  | .display => r.display

theorem reads_reader : Reads reader fun w r => record.Text Field.Format w r.value := by
  have hread : ∀ f, Reads (record.read f) f.Format := by
    rintro (_ | _ | _ | _)
    · exact reads_wholeNumber
    · exact reads_string
    · exact reads_string.given
    · exact Display.reads_reader
  have hvalue : ∀ w v, record.Text Field.Format w v →
      value ⟨v .cycle, v .outcome, v .error, v .display⟩ = v := by
    intro w v _
    funext f
    cases f <;> rfl
  exact (record.reads key_injective (by decide) hread).map (fun _ => rfl) hvalue

theorem text_written (r : CycleReport) : record.Text Field.Format r.written r.value := by
  obtain ⟨cycle, outcome, error, d⟩ := r
  have hcycle : NaturalText (digits cycle) cycle := naturalText_digits cycle
  have houtcome : LiteralText (literal outcome) outcome := literalText_literal outcome
  have hdisplay := d.text_written
  cases error with
  | none =>
    refine Or.inl ⟨_, objectText_object _, ?_, (record.others_iff rfl).mpr ?_⟩
    · rintro (_ | _ | _ | _)
      · exact .once hcycle
      · exact .once houtcome
      · exact .never rfl
      · exact .once hdisplay
    · simp [record, Record.keys, members]
  | some text =>
    refine Or.inl ⟨_, objectText_object _, ?_, (record.others_iff rfl).mpr ?_⟩
    · rintro (_ | _ | _ | _)
      · exact .once hcycle
      · exact .once houtcome
      · exact .once ⟨text, literalText_literal text, rfl⟩
      · exact .once hdisplay
    · simp [record, Record.keys, members]

end CycleReport

/-! ### What is written -/

theorem StageState.printable_written (s : StageState) : Printable s.written := by
  have hlist : ∀ ds : List Diagnostic, Printable (array (ds.map Diagnostic.written)) := by
    intro ds
    apply printable_array
    intro item hitem
    obtain ⟨d, -, rfl⟩ := List.mem_map.mp hitem
    apply printable_object
    simp [printable_digits, printable_literal]
  cases s with
  | empty | valid =>
    apply printable_object
    simp [printable_literal]
  | invalid ds =>
    apply printable_object
    simp [printable_literal, hlist]

theorem Display.printable_written (d : Display) : Printable d.written := by
  apply printable_object
  simp [StageState.printable_written, printable_literal]

theorem CycleReport.printable_written (r : CycleReport) : Printable r.written := by
  obtain ⟨cycle, outcome, error, d⟩ := r
  apply printable_object
  cases error <;> simp [members, printable_digits, printable_literal, d.printable_written]

/-! ### Nothing is lost -/

/-- What is read back tells apart what was written. -/
theorem RoundTrip.injective {ε α : Type} {decode : String → Except ε α} {written : α → List Char}
    (h : RoundTrip decode fun x => String.ofList (written x)) : Function.Injective written := by
  intro x y hxy
  have hx := h.back x
  rw [hxy, h.back y] at hx
  exact (Except.ok.inj hx).symm

theorem Display.roundTrip : RoundTrip (parse Display.reader) fun d => String.ofList d.written :=
  Display.reads_reader.roundTrip Display.text_written

theorem CycleReport.roundTrip :
    RoundTrip (parse CycleReport.reader) fun r => String.ofList r.written :=
  CycleReport.reads_reader.roundTrip CycleReport.text_written

end GrammarLint
