/-
  GrammarLint/Pipeline/Buffer.lean
  ================================
  **The two buffers** — the text of a stage, how often it was edited, its cursor and
  whether it has the focus.

  Loading puts a text in place without counting as an edit and takes the cursor back to
  the start; every edit counts, also one that changes nothing.
-/
import GrammarLint.Diagnostic.Basic

namespace GrammarLint

open Text

/-- The text of one stage while it is being edited. -/
structure Buffer where
  stage : Stage
  text : String
  version : Nat
  cursor : Position
  focused : Bool
deriving DecidableEq, Repr

namespace Buffer

def new (stage : Stage) : Buffer := ⟨stage, "", 0, .origin, false⟩

def load (b : Buffer) (text : String) : Buffer := { b with text, cursor := .origin }

def edit (b : Buffer) (text : String) : Buffer := { b with text, version := b.version + 1 }

def navigate (b : Buffer) (target : Position) : Buffer := { b with cursor := target }

def focus (b : Buffer) : Buffer := { b with focused := true }

def blur (b : Buffer) : Buffer := { b with focused := false }

/-- The byte offset of the cursor, clamped to the text. -/
def cursorOffset (b : Buffer) : Nat :=
  (LineIndex.ofText b.text).offset b.cursor.line.toNat b.cursor.column.toNat

end Buffer

/-- Both texts at one moment, with their versions. -/
structure Snapshot where
  grammar : String
  code : String
  grammarVersion : Nat
  codeVersion : Nat
deriving DecidableEq, Repr

def Snapshot.of (grammar code : Buffer) : Snapshot :=
  ⟨grammar.text, code.text, grammar.version, code.version⟩

end GrammarLint
