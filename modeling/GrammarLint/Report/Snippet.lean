/-
  GrammarLint/Report/Snippet.lean
  ===============================
  **A finding with its source line** — the drawing of one finding: what it says, where it
  is, the line it is about, and an arrow to the place in that line.

      Error: unexpected '+'
         ╭─[ in.txt:2:3 ]
         │
       2 │ 1++
         │   ┬
         │   ╰── code 2:3
      ───╯

  The drawing counts characters, and the two numbers of a span are bytes; they are taken
  as they are.  Behind a character of more than one byte the arrow therefore stands
  further right than the finding says, and if it is not in the text at all, nothing is
  drawn.  A span may also reach into the lines that follow.  Then a bracket joins its
  first line and its last one, and those in between are left out.

      Error: unexpected '€'
         ╭─[ in.txt:1:2 ]
         │
       1 │ ╭─▶ a€
       2 │ ├─▶ bc
         │ │
         │ ╰─────── code 1:2
      ───╯

  Lines end here at every character that ends a line in Unicode, and a text that ends with
  such a character has no line behind it.
-/
import GrammarLint.Diagnostic.Basic
import GrammarLint.Log.Line
import GrammarLint.Text.Blank
import GrammarLint.Text.CellWidth

namespace GrammarLint

open Text

/-! ### Sources -/

/-- A line of a source: the place of its first character, its characters without the end
    of the line, and how many there are with it. -/
structure SourceLine where
  start : Nat
  text : List Char
  size : Nat
deriving DecidableEq, Repr

/-- Whether the character at a place belongs to a line. -/
def SourceLine.holds (l : SourceLine) (place : Nat) : Bool :=
  l.start ≤ place && place < l.start + l.size

def endsLine (c : Char) : Bool :=
  (0x0A ≤ c.toNat && c.toNat ≤ 0x0D) || c.toNat == 0x85 ||
    c.toNat == 0x2028 || c.toNat == 0x2029

/-- Splits what follows the characters `here` (in reverse) of a line that begins at
    `start`; the next character is at `place`. -/
def splitLines (start place : Nat) (here : List Char) : List Char → List SourceLine
  | [] => if here.isEmpty && 0 < start then [] else [⟨start, here.reverse, place - start⟩]
  | '\r' :: '\n' :: cs =>
    ⟨start, here.reverse, place + 2 - start⟩ :: splitLines (place + 2) (place + 2) [] cs
  | c :: cs =>
    if endsLine c then
      ⟨start, here.reverse, place + 1 - start⟩ :: splitLines (place + 1) (place + 1) [] cs
    else splitLines start (place + 1) (c :: here) cs

/-- The line that character `n` is on, and its number, where `here` is line `number`. -/
def lineAt (n : Nat) (number : Nat) (here : SourceLine) : List SourceLine → Nat × SourceLine
  | [] => (number, here)
  | next :: rest => if next.start ≤ n then lineAt n (number + 1) next rest else (number, here)

/-- A named text that findings are drawn in. -/
structure Source where
  name : String
  chars : List Char
  size : Nat
  index : LineIndex
  lines : List SourceLine

def Source.of (name text : String) : Source :=
  let chars := text.toList
  ⟨name, chars, chars.length, .ofChars chars, splitLines 0 0 [] chars⟩

namespace Snippet

/-! ### Cells and colours -/

/-- A finding is drawn in red. -/
def red : String → String := Log.styled "31"

/-- The frame is drawn in a light grey. -/
def frame : String → String := Log.styled "38;5;246"

/-- The frame beside an arrow is drawn in a dark grey. -/
def shade : String → String := Log.styled "38;5;240"

/-- The text beside the place of a finding is drawn in another light grey. -/
def pale : String → String := Log.styled "38;5;249"

def times (n : Nat) (s : String) : String := String.join (List.replicate n s)

def blanks (n : Nat) : String := times n " "

/-- The number of cells of a character in a given column: a tab goes on to the next
    column that is a multiple of four. -/
def cellsOf (column : Nat) (c : Char) : Nat :=
  if c = '\t' then 4 - column % 4 else if isBlank c then 1 else cellWidth c

/-- A character of a source line, cell by cell. -/
def shownChar (colour : String → String) (column : Nat) (c : Char) : String :=
  if isBlank c then times (cellsOf column c) (colour " ") else colour (String.singleton c)

/-- `width` cells: `first`, and `others` behind it. -/
def cells (width : Nat) (first others : String) : String :=
  match width with
  | 0 => ""
  | n + 1 => first ++ times n others

/-! ### The frame -/

/-- The frame on the left of a line with a number, in a drawing whose line numbers have
    `digits` digits. -/
def numbered (digits number : Nat) : String :=
  let shown := toString number
  " " ++ frame (blanks (digits - shown.length) ++ shown ++ " │") ++ " "

/-- The frame on the left of what is drawn below a line. -/
def unnumbered (digits : Nat) (bar : String) : String :=
  " " ++ shade (blanks (digits + 1) ++ bar) ++ " "

/-- The upper part of the frame, with the place that the drawing is about. -/
def upper (digits : Nat) (name : String) (number column : Nat) : String :=
  let margin := blanks (digits + 2)
  margin ++ frame "╭" ++ frame "─" ++ frame "[" ++
    " " ++ name ++ ":" ++ toString number ++ ":" ++ toString column ++ " " ++ frame "]" ++ "\n" ++
  margin ++ frame "│" ++ "\n"

def lower (digits : Nat) : String :=
  frame (times (digits + 2) "─" ++ "╯") ++ "\n"

/-! ### Places in a line -/

/-- A place in a line: the columns from `first` up to `last`. -/
structure Mark where
  first : Nat
  last : Nat
deriving DecidableEq, Repr

namespace Mark

def covers (m : Mark) (column : Nat) : Bool := m.first ≤ column && column < m.last

def middle (m : Mark) : Nat := max ((m.first + m.last) / 2) m.first

def columns (m : Mark) : Nat := m.last + 2

end Mark

/-- The part of a source from `first` up to `last` as a place in a line. -/
def markIn (l : SourceLine) (first last : Nat) : Mark := ⟨first - l.start, last - l.start⟩

/-- What is shown of a line: white space at its end is not. -/
def visible (l : SourceLine) : List Char := trimEnd l.text

def shownLine (m : Mark) (line : List Char) : String :=
  String.join (line.zipIdx.map fun (c, column) =>
    shownChar (if m.covers column then red else pale) column c)

/-- The cells of `n` columns below a source line, of which `column` is the first and
    `cs` are the characters from there on; each column is drawn by `draw`. -/
def below (draw : Nat → Nat → String) (column : Nat) : Nat → List Char → List String
  | 0, _ => []
  | n + 1, [] => draw column 1 :: below draw (column + 1) n []
  | n + 1, c :: cs => draw column (cellsOf column c) :: below draw (column + 1) n cs

/-! ### Inside one line -/

def underline (m : Mark) (line : List Char) : String :=
  let draw (column width : Nat) : String :=
    if column = m.middle then
      if m.covers column then cells width (red "┬") (red "─") else cells width (red "│") (red " ")
    else if m.covers column then times width (red "─")
    else blanks width
  String.join (below draw 0 m.columns line)

def arrow (m : Mark) (line : List Char) : String :=
  let draw (column width : Nat) : String :=
    if column < m.middle then blanks width
    else if column = m.middle then cells width (red "╰") (red "─")
    else times width (red "─")
  String.join (below draw 0 m.columns line)

/-- A place in the line `l`, which has a given number.  If it reaches beyond the end of the
    line, which is the last one then, only the frame is drawn. -/
def inLine (digits : Nat) (label : String) (number : Nat) (l : SourceLine) (first last : Nat) :
    String :=
  let side := unnumbered digits "│"
  if l.start + l.size < last then side ++ "\n"
  else
    let m := markIn l first last
    numbered digits number ++ shownLine m (visible l) ++ "\n" ++
    side ++ underline m (visible l) ++ "\n" ++
    side ++ arrow m (visible l) ++ " " ++ label ++ "\n"

/-! ### From line to line -/

/-- A line that a bracket leads to. -/
def joined (digits number : Nat) (bracket : String) (l : SourceLine) (first last : Nat) : String :=
  numbered digits number ++ red bracket ++ red "─" ++ red "▶" ++ red " " ++
    shownLine (markIn l first last) (visible l) ++ "\n"

/-- What stands for the lines that are left out. -/
def leftOut (digits : Nat) : String :=
  unnumbered digits "┆" ++ red "┆" ++ blanks 3 ++ "\n"

/-- The end of a bracket below its last line, with the label. -/
def closing (digits : Nat) (label : String) (l : SourceLine) : String :=
  let side := unnumbered digits "│"
  let row (draw : Nat → String) : String :=
    String.join (below (fun _ width => draw width) 0 (l.size + 2) (visible l))
  side ++ red "│" ++ blanks 3 ++ row blanks ++ "\n" ++
  side ++ red "╰" ++ times 3 (red "─") ++ row (times · (red "─")) ++ " " ++ label ++ "\n"

/-- A place that begins in line `number`, which is `l`, and reaches into line `number'`,
    which is `l'`.  If it also reaches beyond the end of that line, which is the last one
    then, the bracket is left open. -/
def acrossLines (digits : Nat) (label : String) (number : Nat) (l : SourceLine)
    (number' : Nat) (l' : SourceLine) (first last : Nat) : String :=
  let opening := joined digits number "╭" l first last
  if l'.holds (last - 1) then
    opening ++ (if number + 1 < number' then leftOut digits else "") ++
      joined digits number' "├" l' first last ++ closing digits label l'
  else opening ++ leftOut digits

end Snippet

open Snippet in
def Source.snippet (s : Source) (stage : Stage) (d : Diagnostic) : String :=
  let title := red "Error:" ++ " " ++ d.message ++ "\n"
  let (first, last) := d.spanIn s.chars s.index
  if s.size < first || (first < last && s.size < last - 1) then title
  else
    let (number, line) := lineAt first 0 ⟨0, [], 0⟩ s.lines
    let (number', line') := lineAt (max first (last - 1)) 0 ⟨0, [], 0⟩ s.lines
    let digits := (toString number').length
    let label :=
      stage.name ++ " " ++ toString d.line.toNat ++ ":" ++ toString d.column.toNat
    title ++ upper digits s.name number (first - line.start + 1) ++
      (if number = number' then inLine digits label number line first last
        else acrossLines digits label number line number' line' first last) ++
      lower digits

end GrammarLint
