/-
  GrammarLint/Diagnostic/Wire.lean
  ================================
  **Diagnostics on the wire** — how stages, positions and findings are written and read
  as JSON.

  A finding is written with the keys `ln`, `col` and `msg`, in this order, and a
  position with `line` and `column`.  Reading takes the keys in any order, skips other
  ones, and takes an array of the values in place of the object.
-/
import GrammarLint.Diagnostic.Basic
import GrammarLint.Json.Record
import GrammarLint.Json.Writer

namespace GrammarLint

/-! ### Stages -/

def Stage.reader : Json.Reader Stage :=
  Json.variant (Stage.all.map fun s => (s.name, s))

def Stage.written (s : Stage) : List Char := Json.literal s.name

/-! ### Positions -/

/-- The fields of a position. -/
inductive Position.Field where
  | line
  | column
deriving DecidableEq

def Position.record : Json.Record Position.Field (fun _ => UInt32) where
  title := "struct Position"
  fields := [.line, .column]
  complete := by intro i; cases i <;> simp
  key
    | .line => "line"
    | .column => "column"
  read _ := Json.uint32
  absentMember _ := none
  absentElement _ := none
  closed := false

def Position.reader : Json.Reader Position :=
  Position.record.reader.map fun v => ⟨v .line, v .column⟩

def Position.written (p : Position) : List Char :=
  Json.object [("line", Json.digits p.line.toNat), ("column", Json.digits p.column.toNat)]

/-! ### Findings -/

/-- The fields of a finding. -/
inductive Diagnostic.Field where
  | line
  | column
  | message
deriving DecidableEq

def Diagnostic.Field.Content : Diagnostic.Field → Type
  | .line => UInt32
  | .column => UInt32
  | .message => String

def Diagnostic.record : Json.Record Diagnostic.Field Diagnostic.Field.Content where
  title := "struct Diagnostic"
  fields := [.line, .column, .message]
  complete := by intro i; cases i <;> simp
  key
    | .line => "ln"
    | .column => "col"
    | .message => "msg"
  read
    | .line => Json.uint32
    | .column => Json.uint32
    | .message => Json.string
  absentMember _ := none
  absentElement _ := none
  closed := false

def Diagnostic.reader : Json.Reader Diagnostic :=
  Diagnostic.record.reader.map fun v => ⟨v .line, v .column, v .message⟩

def Diagnostic.written (d : Diagnostic) : List Char :=
  Json.object [("ln", Json.digits d.line.toNat), ("col", Json.digits d.column.toNat),
    ("msg", Json.literal d.message)]

end GrammarLint
