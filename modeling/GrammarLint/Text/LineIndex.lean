/-
  GrammarLint/Text/LineIndex.lean
  ===============================
  **Lines of a text and byte offsets** — the two coordinate systems that
  diagnostics and cursors are given in.

  A line ends at a line feed and nowhere else, so a text has one line more than it
  has line feeds, and there is always a first line.  Lines and columns count from
  zero.  `lineCol` answers in bytes and never fails: an offset past the end stays
  on the last line.  `offset` takes a *character* column and clamps: a line past
  the end is the last line, and a column past the end of a line is the end of that
  line, before its line feed and before one carriage return that ends it.
-/
import GrammarLint.Text.Utf8

namespace GrammarLint.Text

/-- The lines of a text without their line feeds: the first line, and the others. -/
structure LineIndex where
  first : List Char
  others : List (List Char)
deriving DecidableEq, Repr

namespace LineIndex

/-- Puts one more character before a text that is already split. -/
def push (c : Char) (rest : LineIndex) : LineIndex :=
  if c = '\n' then ⟨[], rest.first :: rest.others⟩ else ⟨c :: rest.first, rest.others⟩

def ofChars (cs : List Char) : LineIndex :=
  cs.foldr push ⟨[], []⟩

def ofText (text : String) : LineIndex :=
  ofChars text.toList

def lines (ix : LineIndex) : List (List Char) :=
  ix.first :: ix.others

def lineCount (ix : LineIndex) : Nat :=
  ix.lines.length

/-- The bytes that `ls` take together with a line feed after each of them. -/
def bytesOf (ls : List (List Char)) : Nat :=
  ls.foldl (fun n l => n + (utf8Length l + 1)) 0

/-- The byte offset at which line `i` starts. -/
def lineStart (ix : LineIndex) (i : Nat) : Option Nat :=
  if i < ix.lineCount then some (bytesOf (ix.lines.take i)) else none

/-- Walks from line `line`, which starts at byte `start`, to the line that byte `n`
    is on. -/
def seek (n : Nat) : Nat → Nat → List Char → List (List Char) → Nat × Nat
  | line, start, _, [] => (line, n - start)
  | line, start, here, next :: rest =>
    let after := start + utf8Length here + 1
    if n < after then (line, n - start) else seek n (line + 1) after next rest

/-- The line that byte `n` is on, and the bytes from the start of that line to `n`. -/
def lineCol (ix : LineIndex) (n : Nat) : Nat × Nat :=
  seek n 0 0 ix.first ix.others

/-- A line without one carriage return at its end. -/
def visible (line : List Char) : List Char :=
  if line.getLast? = some '\r' then line.dropLast else line

/-- The byte offset of the character in column `column` of line `line`, clamped to
    the text. -/
def offset (ix : LineIndex) (line column : Nat) : Nat :=
  let i := min line (ix.lineCount - 1)
  bytesOf (ix.lines.take i) + utf8Length ((visible (ix.lines.getD i [])).take column)

end LineIndex

end GrammarLint.Text
