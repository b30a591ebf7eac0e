/-
  GrammarLint/Sandbox/Catenation.lean
  ===================================
  **The program `cat`** — it writes what is in files, or what it is sent, one after
  another, and on request shows lines and characters that are not seen otherwise.

  What is written behind each other counts as one text: lines are numbered on from file
  to file, and a line may begin in one file and end in the next.
-/
import GrammarLint.Sandbox.Disk
import GrammarLint.Text.ShellWord

namespace GrammarLint.Sandbox

open Text

namespace Catenation

/-! ### Arguments -/

/-- What is to be shown. -/
structure Style where
  numbers : Bool
  /-- Blank lines have none. -/
  exceptBlank : Bool
  /-- Of blank lines behind each other only one is written. -/
  squeezed : Bool
  ends : Bool
  tabs : Bool
  /-- What is not printed is shown, but for ends of lines and tabs. -/
  controls : Bool
deriving DecidableEq, Repr

namespace Style

/-- Nothing is shown but the text. -/
def plain : Style := ⟨false, false, false, false, false, false⟩

/-- Adds what the option with a given letter asks for. -/
def add? (s : Style) : Char → Option Style
  | 'A' => some { s with ends := true, tabs := true, controls := true }
  | 'b' => some { s with numbers := true, exceptBlank := true }
  | 'e' => some { s with ends := true, controls := true }
  | 'E' => some { s with ends := true }
  | 'n' => some { s with numbers := true }
  | 's' => some { s with squeezed := true }
  | 't' => some { s with tabs := true, controls := true }
  | 'T' => some { s with tabs := true }
  | 'u' => some s
  | 'v' => some { s with controls := true }
  | _ => none

end Style

/-- The options with a long name, and the letters that ask for the same.  The last two
    have none, and end the program. -/
def longOptions : List (String × Option Char) :=
  [("number-nonblank", some 'b'), ("number", some 'n'), ("squeeze-blank", some 's'),
   ("show-nonprinting", some 'v'), ("show-ends", some 'E'), ("show-tabs", some 'T'),
   ("show-all", some 'A'), ("help", none), ("version", none)]

/-- Why arguments are refused. -/
inductive Refusal where
  /-- There is no option with a letter, which is given by its first byte. -/
  | unknownLetter (byte : UInt8)
  | unknownName (text : String)
  | ambiguous (text : String) (names : List String)
  /-- There is a value behind a name. -/
  | valued (name : String)
deriving DecidableEq, Repr

/-- What the arguments ask for. -/
inductive Order where
  /-- Operands are to be written, in a style. -/
  | write (style : Style) (operands : List String)
  /-- The program is to tell about itself. -/
  | describe
  | refused (why : Refusal)
deriving DecidableEq, Repr

/-- Reads the letters of an argument with options. -/
def readLetters (s : Style) : List Char → Except Refusal Style
  | [] => .ok s
  | c :: cs =>
    match s.add? c with
    | some s => readLetters s cs
    | none => .error (.unknownLetter ((String.singleton c).toUTF8.toList.headD 0))

/-- Reads an option with a long name, which may be cut off where that names one option
    only.  Answers its letter. -/
def readName (text : String) : Except Refusal (Option Char) :=
  let name := text.toList.takeWhile (· != '=')
  let candidates := longOptions.filter fun o => name.isPrefixOf o.1.toList
  let found := match candidates.filter fun o => o.1.toList = name with
    | [] => candidates
    | exact => exact
  match found with
  | [] => .error (.unknownName text)
  | [(full, letter)] =>
    if text.toList.contains '=' then .error (.valued full) else .ok letter
  | several => .error (.ambiguous text (several.map (·.1)))

/-- Reads arguments: options, wherever they stand, up to two dashes alone, and operands.
    `operands` are those so far, the latest one first. -/
def readArguments (s : Style) (operands : List String) : List String → Order
  | [] => .write s operands.reverse
  | a :: rest =>
    match a.toList with
    | ['-', '-'] => .write s (operands.reverse ++ rest)
    | '-' :: '-' :: name =>
      match readName (String.ofList name) with
      | .error why => .refused why
      | .ok none => .describe
      | .ok (some letter) => readArguments ((s.add? letter).getD s) operands rest
    | '-' :: c :: cs =>
      match readLetters s (c :: cs) with
      | .error why => .refused why
      | .ok s => readArguments s operands rest
    | _ => readArguments s (a :: operands) rest

/-- The wording of a refusal, for a program that was called by `name`. -/
def Refusal.message (name : String) (r : Refusal) : ByteArray :=
  let option (text : String) := "'--" ++ text ++ "'"
  let complaint : ByteArray := match r with
    | .unknownLetter byte => ("invalid option -- '".toUTF8.push byte) ++ "'".toUTF8
    | .unknownName text => ("unrecognized option " ++ option text).toUTF8
    | .ambiguous text names =>
      ("option " ++ option text ++ " is ambiguous; possibilities:" ++
        String.join (names.map fun n => " " ++ option n)).toUTF8
    | .valued text => ("option " ++ option text ++ " doesn't allow an argument").toUTF8
  (name ++ ": ").toUTF8 ++ complaint ++
    ("\nTry '" ++ name ++ " --help' for more information.\n").toUTF8

/-! ### Showing a text -/

/-- How a byte that may not be printed is shown: a caret stands for the controls, and an
    M with a dash for the upper half of all bytes. -/
def signs (b : UInt8) : List UInt8 :=
  let low := b.toNat % 128
  let upper := if b.toNat < 128 then [] else ['M', '-']
  let shown :=
    if low < 32 then ['^', Char.ofNat (low + 64)]
    else if low = 127 then ['^', '?']
    else [Char.ofNat low]
  (upper ++ shown).map (·.toNat.toUInt8)

/-- How a byte inside a line is shown; `last` says that the line ends behind it. -/
def Style.shown (s : Style) (last : Bool) (b : UInt8) : List UInt8 :=
  if b.toNat = '\t'.toNat then if s.tabs then signs b else [b]
  else if s.controls || (b.toNat = '\r'.toNat && last && s.ends) then signs b
  else [b]

def lineNumber (n : Nat) : String :=
  let digits := toString n
  String.ofList (List.replicate (6 - digits.length) ' ') ++ digits ++ "\t"

/-- Where in a text the program is. -/
structure Progress where
  /-- How many blank lines are right behind it, if a line begins here. -/
  blanks : Option Nat
  /-- How many lines have a number. -/
  numbered : Nat
  written : ByteArray

namespace Progress

def start : Progress := ⟨some 0, 0, .empty⟩

def number (p : Progress) : Progress :=
  let n := p.numbered + 1
  { p with numbered := n, written := p.written ++ (lineNumber n).toUTF8 }

def endLine (s : Style) (p : Progress) : Progress :=
  let finish (p : Progress) (blanks : Nat) : Progress :=
    { p with
      blanks := some blanks
      written := p.written ++ (if s.ends then "$\n" else "\n").toUTF8 }
  match p.blanks with
  | none => finish p 0
  | some n =>
    if s.squeezed && n != 0 then p
    else finish (if s.numbers && !s.exceptBlank then p.number else p) (n + 1)

/-- Writes one byte of a line; `last` says that the line ends behind it. -/
def addByte (s : Style) (last : Bool) (p : Progress) (b : UInt8) : Progress :=
  let p := if s.numbers && p.blanks.isSome then p.number else p
  { p with blanks := none, written := (s.shown last b).foldl ByteArray.push p.written }

def addAll (s : Style) (p : Progress) : List UInt8 → Progress
  | [] => p
  | b :: bs =>
    let newline := '\n'.toNat.toUInt8
    if b = newline then addAll s (p.endLine s) bs
    else addAll s (p.addByte s (bs.head? = some newline) b) bs

end Progress

def Style.render (s : Style) (bytes : ByteArray) : ByteArray :=
  if s = .plain then bytes else (Progress.start.addAll s bytes.toList).written

/-! ### Running -/

/-- What is read so far. -/
structure Reading where
  contents : ByteArray
  /-- What is left of what the program is sent. -/
  input : ByteArray
  /-- Whether the program reads what it is sent. -/
  listens : Bool
  complaints : String

/-- The operands that stand for what the program is sent. -/
def inputNames : List String := ["-", "/dev/stdin"]

/-- Reads one operand.  Complaints begin with the name that the program was called by. -/
def Reading.add (name : String) (d : Disk) (r : Reading) (operand : String) : Reading :=
  if inputNames.contains operand then
    { r with contents := r.contents ++ r.input, input := .empty, listens := true }
  else
    match d.read operand with
    | .ok bytes => { r with contents := r.contents ++ bytes }
    | .error e =>
      { r with
        complaints :=
          r.complaints ++ name ++ ": " ++ shellWord operand ++ ": " ++ e.reason.1 ++ "\n" }

/-- What the program tells about itself begins with this. -/
def description (name : String) : String := "Usage: " ++ name ++ " [OPTION]... [FILE]...\n"

/-- What comes of running `cat`, with a text to read for it. -/
def run (d : Disk) (program : Program) (text : String) : Launch :=
  match readArguments .plain [] program.arguments with
  | .refused why => .ended (.code 1) .empty (why.message program.name) .closed
  | .describe => .ended (.code 0) (description program.name).toUTF8 .empty .closed
  | .write style operands =>
    let operands := if operands.isEmpty then ["-"] else operands
    let r := operands.foldl (Reading.add program.name d) ⟨.empty, text.toUTF8, false, ""⟩
    .ended (.code (if r.complaints.isEmpty then 0 else 1)) (style.render r.contents)
      r.complaints.toUTF8 (if r.listens then .complete else .closed)

/-- The names that `cat` can be called by. -/
def callNames : List String := ["cat", "/bin/cat", "/usr/bin/cat"]

end Catenation

end GrammarLint.Sandbox
