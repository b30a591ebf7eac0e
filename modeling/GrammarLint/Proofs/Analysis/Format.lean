/-
  GrammarLint/Proofs/Analysis/Format.lean
  =======================================
  **The format of a response** — an analyzer's response is accepted if and only if it is
  one JSON document of the format that is spelled out here.

  A finding and a result are objects in which every known key occurs as often as it may,
  or arrays of the same values in order.  The records that the readers are made of are
  compared with the spelled-out forms key by key and place by place.
-/
import GrammarLint.Analysis.Result
import GrammarLint.Proofs.Json.Record

namespace GrammarLint

open Json

/-! ### Findings -/

/-- **The texts of a finding.**  Its line and its column have 32 bits. -/
inductive DiagnosticText : List Char → Diagnostic → Prop
  | object {w ln col msg : List Char} {members : List (String × List Char)} {d : Diagnostic}
    (hw : ObjectText w members)
    (hln : occurrences members "ln" = [ln]) (line : NaturalText ln d.line.toNat)
    (hcol : occurrences members "col" = [col]) (column : NaturalText col d.column.toNat)
    (hmsg : occurrences members "msg" = [msg]) (message : LiteralText msg d.message)
    (others : ∀ m ∈ members, m.1 ∉ ["ln", "col", "msg"] → ValueText m.2) : DiagnosticText w d
  | array {w ln col msg : List Char} {d : Diagnostic} (hw : ListText w [ln, col, msg])
    (line : NaturalText ln d.line.toNat) (column : NaturalText col d.column.toNat)
    (message : LiteralText msg d.message) : DiagnosticText w d

namespace Diagnostic

def Field.Format : (f : Field) → List Char → f.Content → Prop
  | .line => fun w (n : UInt32) => NaturalText w n.toNat
  | .column => fun w (n : UInt32) => NaturalText w n.toNat
  | .message => LiteralText

theorem key_injective : Function.Injective record.key := by
  intro f g
  cases f <;> cases g <;> simp [record]

/-- The values of the fields of a finding. -/
def value (d : Diagnostic) : (f : Field) → f.Content
  | .line => d.line
  | .column => d.column
  | .message => d.message

theorem text_iff {w : List Char} {d : Diagnostic} :
    record.Text Field.Format w d.value ↔ DiagnosticText w d := by
  constructor
  · rintro (⟨members, hw, hmembers, hothers⟩ | ⟨elements, hw, helements⟩)
    · obtain ⟨ln, hln, line⟩ := holds_none_iff.mp (hmembers .line)
      obtain ⟨col, hcol, column⟩ := holds_none_iff.mp (hmembers .column)
      obtain ⟨msg, hmsg, message⟩ := holds_none_iff.mp (hmembers .message)
      exact .object hw hln line hcol column hmsg message ((record.others_iff rfl).mp hothers)
    -- No field may be left out of an array, and none may follow the last one.
    · rcases elements with _ | ⟨ln, _ | ⟨col, _ | ⟨msg, _ | ⟨v, elements⟩⟩⟩⟩
      · cases helements.1
      · cases helements.2.1
      · cases helements.2.2.1
      · exact .array hw helements.1 helements.2.1 helements.2.2.1
      · exact absurd helements.2.2.2 id
  · rintro (⟨hw, hln, line, hcol, column, hmsg, message, others⟩ | ⟨hw, line, column, message⟩)
    · refine Or.inl ⟨_, hw, ?_, (record.others_iff rfl).mpr others⟩
      rintro (_ | _ | _)
      · exact holds_none_iff.mpr ⟨_, hln, line⟩
      · exact holds_none_iff.mpr ⟨_, hcol, column⟩
      · exact holds_none_iff.mpr ⟨_, hmsg, message⟩
    · exact Or.inr ⟨_, hw, line, column, message, trivial⟩

theorem reads_reader : Reads reader DiagnosticText := by
  have hread : ∀ f, Reads (record.read f) f.Format := by
    rintro (_ | _ | _)
    · exact reads_uint32
    · exact reads_uint32
    · exact reads_string
  have hvalue : ∀ w x, record.Text Field.Format w x →
      value ⟨x .line, x .column, x .message⟩ = x := by
    intro w x _
    funext f
    cases f <;> rfl
  exact ((record.reads key_injective (by decide) hread).map (g := value) (fun _ => rfl)
    hvalue).congr fun _ _ => text_iff

end Diagnostic

/-! ### Results -/

/-- The trees at the end of an array, which may be left out from behind. -/
inductive TreesText : List (List Char) → String → String → Prop
  | neither : TreesText [] "" ""
  | first {a : List Char} {ast : String} (ha : LiteralText a ast) : TreesText [a] ast ""
  | both {a o : List Char} {ast astOptimized : String} (ha : LiteralText a ast)
    (ho : LiteralText o astOptimized) : TreesText [a, o] ast astOptimized

/-- **The texts of a result.**  The findings are lists, and a tree that is left out is
    empty. -/
inductive ResultText : List Char → AnalysisResult → Prop
  | object {w g c : List Char} {members : List (String × List Char)} {r : AnalysisResult}
    (hw : ObjectText w members)
    (hgrammar : occurrences members "grammar" = [g])
    (grammar : Bracketed '[' ']' DiagnosticText g r.grammar)
    (hcode : occurrences members "code" = [c])
    (code : Bracketed '[' ']' DiagnosticText c r.code)
    (ast : Holds LiteralText (some "") (occurrences members "ast") r.ast)
    (astOptimized : Holds LiteralText (some "") (occurrences members "astOptimized")
      r.astOptimized)
    (others : ∀ m ∈ members, m.1 ∉ ["grammar", "code", "ast", "astOptimized"] →
      ValueText m.2) : ResultText w r
  | array {w g c : List Char} {trees : List (List Char)} {r : AnalysisResult}
    (hw : ListText w (g :: c :: trees)) (grammar : Bracketed '[' ']' DiagnosticText g r.grammar)
    (code : Bracketed '[' ']' DiagnosticText c r.code)
    (htrees : TreesText trees r.ast r.astOptimized) : ResultText w r

namespace AnalysisResult

def Field.Format : (f : Field) → List Char → f.Content → Prop
  | .grammar => Bracketed '[' ']' DiagnosticText
  | .code => Bracketed '[' ']' DiagnosticText
  | .ast => LiteralText
  | .astOptimized => LiteralText

theorem key_injective : Function.Injective record.key := by
  intro f g
  cases f <;> cases g <;> simp [record]

/-- The values of the fields of a result. -/
def value (r : AnalysisResult) : (f : Field) → f.Content
  | .grammar => r.grammar
  | .code => r.code
  | .ast => r.ast
  | .astOptimized => r.astOptimized

theorem treesText_iff {trees : List (List Char)} {r : AnalysisResult} :
    record.Elements Field.Format [.ast, .astOptimized] trees r.value ↔
      TreesText trees r.ast r.astOptimized := by
  obtain ⟨grammar, code, ast, astOptimized⟩ := r
  constructor
  · intro h
    rcases trees with _ | ⟨a, _ | ⟨o, _ | ⟨v, trees⟩⟩⟩
    · obtain ⟨hast, hoptimized, -⟩ := h
      obtain rfl : "" = ast := Option.some.inj hast
      obtain rfl : "" = astOptimized := Option.some.inj hoptimized
      exact .neither
    · obtain ⟨hast, hoptimized, -⟩ := h
      obtain rfl : "" = astOptimized := Option.some.inj hoptimized
      exact .first hast
    · exact .both h.1 h.2.1
    · exact absurd h.2.2 id
  · intro h
    cases h with
    | neither => exact ⟨rfl, rfl, trivial⟩
    | first ha => exact ⟨ha, rfl, trivial⟩
    | both ha ho => exact ⟨ha, ho, trivial⟩

theorem text_iff {w : List Char} {r : AnalysisResult} :
    record.Text Field.Format w r.value ↔ ResultText w r := by
  constructor
  · rintro (⟨members, hw, hmembers, hothers⟩ | ⟨elements, hw, helements⟩)
    · obtain ⟨g, hgrammar, grammar⟩ := holds_none_iff.mp (hmembers .grammar)
      obtain ⟨c, hcode, code⟩ := holds_none_iff.mp (hmembers .code)
      exact .object hw hgrammar grammar hcode code (hmembers .ast) (hmembers .astOptimized)
        ((record.others_iff rfl).mp hothers)
    · rcases elements with _ | ⟨g, _ | ⟨c, trees⟩⟩
      · cases helements.1
      · cases helements.2.1
      · exact .array hw helements.1 helements.2.1 (treesText_iff.mp helements.2.2)
  · rintro (⟨hw, hgrammar, grammar, hcode, code, ast, astOptimized, others⟩ |
      ⟨hw, grammar, code, htrees⟩)
    · refine Or.inl ⟨_, hw, ?_, (record.others_iff rfl).mpr others⟩
      rintro (_ | _ | _ | _)
      · exact holds_none_iff.mpr ⟨_, hgrammar, grammar⟩
      · exact holds_none_iff.mpr ⟨_, hcode, code⟩
      · exact ast
      · exact astOptimized
    · exact Or.inr ⟨_, hw, grammar, code, treesText_iff.mpr htrees⟩

theorem reads_reader : Reads reader ResultText := by
  have hread : ∀ f, Reads (record.read f) f.Format := by
    rintro (_ | _ | _ | _)
    · exact Diagnostic.reads_reader.list
    · exact Diagnostic.reads_reader.list
    · exact reads_string
    · exact reads_string
  have hvalue : ∀ w x, record.Text Field.Format w x →
      value ⟨x .grammar, x .code, x .ast, x .astOptimized⟩ = x := by
    intro w x _
    funext f
    cases f <;> rfl
  exact ((record.reads key_injective (by decide) hread).map (g := value) (fun _ => rfl)
    hvalue).congr fun _ _ => text_iff

end AnalysisResult

/-- **A response is accepted if and only if it is of the format**, and then it is read as
    the result it stands for.  Every other response is malformed. -/
theorem interpret_eq_ok_iff_document (raw : String) :
    (∀ r, interpret (.ok raw) = .ok r ↔ Document ResultText raw r) ∧
      ((∃ defect, interpret (.ok raw) = .error (.malformed defect)) ↔
        ∀ r, ¬ Document ResultText raw r) := by
  have hdecode : ∀ r, AnalysisResult.decode raw = .ok r ↔ Document ResultText raw r :=
    fun r => AnalysisResult.reads_reader.parse_eq_ok
  simp only [← hdecode, interpret]
  cases AnalysisResult.decode raw <;> simp [Except.mapError]

-- Blanks, an unknown key, an escape in a known one, and a finding that is an array.
example : Document ResultText
    "\n\x7b\"code\": [ ], \"other\":[\x7b\"a\":-1e5\x7d], \"gr\\u0061mmar\":[[1,2,\"m\"]]\x7d "
    ⟨[⟨1, 2, "m"⟩], [], "", ""⟩ :=
  AnalysisResult.reads_reader.parse_eq_ok.mp (by decide +kernel)

end GrammarLint
