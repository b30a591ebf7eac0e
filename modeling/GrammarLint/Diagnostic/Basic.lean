/-
  GrammarLint/Diagnostic/Basic.lean
  =================================
  **Diagnostics and what they point at** — the two stages of a lint, the findings
  that an analyzer reports about one of them, and the places in its text.

  A finding counts lines and columns from 1, an editor counts them from 0; `target`
  goes from the one to the other and does not look at the text.  `spanIn` does: it is
  the one character that the finding is about, as byte offsets, and it is empty at the
  end of a line.
-/
import GrammarLint.Text.LineIndex

namespace GrammarLint

open Text

/-! ### Stages -/

/-- The two texts that are linted, and the two stages of a lint. -/
inductive Stage where
  | grammar
  | code
deriving DecidableEq, Repr

namespace Stage

/-- Both stages, in the order they are gone through. -/
def all : List Stage := [.grammar, .code]

def name : Stage → String
  | .grammar => "grammar"
  | .code => "code"

def other : Stage → Stage
  | .grammar => .code
  | .code => .grammar

def index : Stage → Nat
  | .grammar => 0
  | .code => 1

def ofName? (name : String) : Option Stage :=
  all.find? fun s => s.name == name

/-- What is said about a name that no stage has. -/
def unknownMessage (name : String) : String :=
  "unknown stage '" ++ name ++ "' (expected 'grammar' or 'code')"

end Stage

/-! ### Positions -/

/-- A place in a text: line and character column, both from 0. -/
structure Position where
  line : UInt32
  column : UInt32
deriving DecidableEq, Repr

def Position.origin : Position := ⟨0, 0⟩

/-- One less, but not less than zero. -/
def predecessor (n : UInt32) : UInt32 := if n = 0 then 0 else n - 1

/-! ### Diagnostics -/

/-- A finding: its line and column, both from 1, and what it says. -/
structure Diagnostic where
  line : UInt32
  column : UInt32
  message : String
deriving DecidableEq, Repr

namespace Diagnostic

/-- The place a finding points at.  A zero, which no text has, counts as a one. -/
def target (d : Diagnostic) : Position :=
  ⟨predecessor d.line, predecessor d.column⟩

def display (d : Diagnostic) : String :=
  toString d.line.toNat ++ ":" ++ toString d.column.toNat ++ " " ++ d.message

/-- The bytes of the character that a finding is about, in the text with the given
    characters and index: the first byte and the one after the last.  No byte is covered
    at a line feed, at a carriage return, or at the end. -/
def spanIn (d : Diagnostic) (source : List Char) (ix : LineIndex) : Nat × Nat :=
  let start := ix.offset d.target.line.toNat d.target.column.toNat
  match charAt? source start with
  | some c => if c = '\n' ∨ c = '\r' then (start, start) else (start, start + c.utf8Size)
  | none => (start, start)

/-- The bytes of the character that a finding is about in `text`. -/
def span (d : Diagnostic) (text : String) : Nat × Nat :=
  d.spanIn text.toList (LineIndex.ofText text)

/-- The part of `text` that a finding is about. -/
def covered (d : Diagnostic) (text : String) : String :=
  let (first, last) := d.span text
  String.ofList (slice text.toList first last)

end Diagnostic

end GrammarLint
