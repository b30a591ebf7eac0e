/-
  GrammarLint/Proofs/Analysis/RoundTrip.lean
  ==========================================
  **The wire loses nothing** — results, findings, positions and stages are read back as
  they were written.

  What is written for a record is an object of its format, with every key once.  The reader
  takes all texts of the format, so it takes this one, and for the value it was written
  from: an object of the format determines the record.
-/
import GrammarLint.Proofs.Analysis.Format
import GrammarLint.Proofs.Json.Writer

namespace GrammarLint

open Json

/-- What is written for a value is read as that value.  A text that is accepted may be
    written anew: that changes nothing, and nothing again the next time. -/
structure RoundTrip {ε α : Type} (decode : String → Except ε α) (encode : α → String) :
    Prop where
  back : ∀ x, decode (encode x) = .ok x
  again : ∀ {raw x}, decode raw = .ok x → decode (encode x) = decode raw
  fixed : ∀ {raw x x'}, decode raw = .ok x → decode (encode x) = .ok x' → encode x' = encode x

theorem RoundTrip.of_back {ε α : Type} {decode : String → Except ε α} {encode : α → String}
    (back : ∀ x, decode (encode x) = .ok x) : RoundTrip decode encode where
  back := back
  again h := by rw [back, h]
  fixed {raw x x'} _ h := by
    rw [back] at h
    cases h
    rfl

/-- A format that covers what is written. -/
theorem Json.Reads.roundTrip {α : Type} {read : Reader α} {F : List Char → α → Prop}
    (h : Reads read F) {written : α → List Char} (hwritten : ∀ x, F (written x) x) :
    RoundTrip (parse read) fun x => String.ofList (written x) :=
  .of_back fun x => h.parse_eq_ok.mpr
    ⟨[], written x, [], by simp, blanks_nil, blanks_nil, hwritten x⟩

/-! ### Stages -/

theorem Stage.parse_written (s : Stage) :
    parse Stage.reader (String.ofList s.written) = .ok s := by
  have hlookup : (Stage.all.map fun s => (s.name, s)).lookup s.name = some s := by
    cases s <;> rfl
  have hread := variant_append hlookup (literalText_literal s.name) ends_nil
  rw [List.append_nil] at hread
  have hread : Stage.reader s.written = .ok (s, []) := hread
  simp only [parse, readAll, String.toList_ofList, hread]
  rfl

/-! ### Positions -/

namespace Position

theorem key_injective : Function.Injective record.key := by
  intro f g
  cases f <;> cases g <;> simp [record]

def value (p : Position) : Field → UInt32
  | .line => p.line
  | .column => p.column

theorem reads_reader : Reads reader fun w p =>
    record.Text (fun _ w n => NaturalText w n.toNat) w p.value := by
  have hvalue : ∀ w x, record.Text (fun _ w n => NaturalText w n.toNat) w x →
      value ⟨x .line, x .column⟩ = x := by
    intro w x _
    funext f
    cases f <;> rfl
  exact (record.reads key_injective (by decide) fun _ => reads_uint32).map (fun _ => rfl) hvalue

theorem text_written (p : Position) :
    record.Text (fun _ w n => NaturalText w n.toNat) p.written p.value := by
  refine Or.inl ⟨_, objectText_object _, ?_, (record.others_iff rfl).mpr ?_⟩
  · rintro (_ | _)
    · exact holds_none_iff.mpr ⟨_, rfl, naturalText_digits _⟩
    · exact holds_none_iff.mpr ⟨_, rfl, naturalText_digits _⟩
  · simp [record, Record.keys]

end Position

/-! ### Findings and results -/

theorem Diagnostic.text_written (d : Diagnostic) : DiagnosticText d.written d :=
  .object (objectText_object _) rfl (naturalText_digits _) rfl (naturalText_digits _) rfl
    (literalText_literal _) (by simp)

theorem AnalysisResult.text_written (r : AnalysisResult) : ResultText r.written r :=
  have hlist : ∀ ds : List Diagnostic,
      Bracketed '[' ']' DiagnosticText (Json.array (ds.map Diagnostic.written)) ds :=
    fun _ => bracketed_array fun d _ => d.text_written
  .object (objectText_object _) rfl (hlist _) rfl (hlist _) (.once (literalText_literal _))
    (.once (literalText_literal _)) (by simp)

/-- **Everything on the wire is read back.** -/
theorem wire_round_trip :
    RoundTrip (fun raw => interpret (.ok raw))
      (fun r : AnalysisResult => String.ofList r.written) ∧
    RoundTrip (parse Diagnostic.reader) (fun d => String.ofList d.written) ∧
    RoundTrip (parse Position.reader) (fun p => String.ofList p.written) ∧
    RoundTrip (parse Stage.reader) (fun s => String.ofList s.written) := by
  have hresult := AnalysisResult.reads_reader.roundTrip AnalysisResult.text_written
  refine ⟨.of_back fun r => ?_, ?_, ?_, ?_⟩
  · have hback : AnalysisResult.decode (String.ofList r.written) = .ok r := hresult.back r
    rw [interpret, hback]
    rfl
  · exact Diagnostic.reads_reader.roundTrip Diagnostic.text_written
  · exact Position.reads_reader.roundTrip Position.text_written
  · exact .of_back Stage.parse_written

end GrammarLint
